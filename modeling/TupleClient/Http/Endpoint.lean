import TupleClient.Exchange
import TupleClient.Url.Basic

/-!
# Endpoints

An endpoint is where a service on the network is found: a base address, below which all paths lie,
and headers that go with every request.

## Main definitions

* `Endpoint`, `Endpoint.ofUrl` — an endpoint, and the one at an address
* `Endpoint.urlOf` — the address of a path

## Main results

* `Endpoint.baseUrl_ofUrl` — the base address is the given text without slashes at its end
-/

namespace TupleClient

/-- Where a service is found. -/
structure Endpoint where
  /-- The base address, without slashes at its end. -/
  baseUrl : String
  /-- The headers of every request. -/
  headers : List (String × String) := []
deriving DecidableEq

namespace Endpoint

/-- A text without the slashes at its end. -/
def withoutFinalSlashes (s : String) : String :=
  String.ofList (s.toList.reverse.dropWhile (· = '/')).reverse

/-- The error of a request that cannot be made. -/
def refusal (detail : String) : TransportError := ⟨.invalidRequest, detail⟩

/-- The endpoint at an address. The base address is kept as it is written. -/
def ofUrl (url : String) : Except TransportError Endpoint :=
  match Url.parse url with
  | .error e => .error (refusal ("invalid api url '" ++ url ++ "': " ++ e.message))
  | .ok address =>
    if address.scheme = "http" || address.scheme = "https" then
      .ok { baseUrl := withoutFinalSlashes url }
    else .error (refusal ("unsupported scheme in api url '" ++ url ++ "'"))

/-- The address of a path, which follows the base address after one slash at least. -/
def urlOf (e : Endpoint) (path : String) : String :=
  if path.toList.head? = some '/' then e.baseUrl ++ path else e.baseUrl ++ "/" ++ path

/-- The base address is the given text without the slashes at its end. -/
theorem baseUrl_ofUrl {url : String} {e : Endpoint} (h : ofUrl url = .ok e) :
    e.baseUrl = withoutFinalSlashes url := by
  unfold ofUrl at h
  split at h
  · simp at h
  · split at h
    · simp only [Except.ok.injEq] at h
      rw [← h]
    · simp at h

end Endpoint

end TupleClient
