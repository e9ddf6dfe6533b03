import TupleClient.Client
import TupleClient.Http.Endpoint

/-!
# Connecting a client

## Main definitions

* `Client.connect` — a client and the endpoint that its settings name
* `ClientError` — why settings have no client

## Main results

* `Client.connect_eq_ok_iff` — which settings have a client and an endpoint
-/

namespace TupleClient

/-- Why settings have no client. -/
inductive ClientError where
  /-- Something is wrong with the settings. -/
  | settings (e : SettingsError)
  /-- The service cannot be reached at the address that the settings name. -/
  | transport (e : TransportError)

/-- The text of an error. -/
def ClientError.message : ClientError → String
  | settings e => e.fullMessage
  | transport e => "transport setup failed: " ++ e.message

namespace Client

/-- The client of settings, and the endpoint at the address that they name. -/
def connect (s : Settings) : Except ClientError (Client × Endpoint) :=
  match ofSettings s with
  | .error e => .error (.settings e)
  | .ok c =>
    match Endpoint.ofUrl s.connection.apiUrl with
    | .error e => .error (.transport e)
    | .ok endpoint => .ok (c, endpoint)

/-- Settings have a client exactly if they are valid, and it is the client with these settings. -/
theorem ofSettings_eq_ok_iff {s : Settings} {c : Client} :
    ofSettings s = .ok c ↔ c.settings = s := by
  constructor
  · intro h
    unfold ofSettings at h
    split at h
    · simp at h
    · simp only [Except.ok.injEq] at h
      rw [← h]
  · rintro rfl
    unfold ofSettings
    split
    · next e h => simp [(Settings.defect?_eq_none_iff _).mpr c.valid] at h
    · rfl

/-- Settings have a client and an endpoint exactly if they are valid and their address names one. -/
theorem connect_eq_ok_iff {s : Settings} {c : Client} {endpoint : Endpoint} :
    connect s = .ok (c, endpoint) ↔
      c.settings = s ∧ Endpoint.ofUrl s.connection.apiUrl = .ok endpoint := by
  rw [← ofSettings_eq_ok_iff]
  unfold connect
  cases ofSettings s with
  | error e => simp
  | ok d => cases Endpoint.ofUrl s.connection.apiUrl <;> simp

end Client

end TupleClient
