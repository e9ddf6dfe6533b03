import Mathlib.Data.List.Induction
import Mathlib.Logic.Relation
import TupleClient.Call

/-!
# Where the context of a failure comes from

The headers of a response arrive as a list of pairs, in which a name may come several times and in
any spelling. The context of a failed call depends on this list through the last values under a few
names only. So it does not matter in which order headers of different names arrive, how their names
are spelled, and what other headers there are.

## Main definitions

* `Headers.arrivals` — the values that arrive under a name, in order
* `Headers.Reports` — the first value among several names that is not blank
* `CallContext.ComesFrom` — the sources of the fields of a context
* `Headers.Rearranges` — one change to a list of headers that does not matter

## Main results

* `Headers.get?_ofList` — the value under a name is the one that arrived last
* `Headers.reports_iff` — what is found among several names
* `CallContext.capture_congr` — a context depends on the last values under the names it looks for
* `CallContext.captures` — where each field comes from, and what does not matter
-/

namespace TupleClient

namespace Headers

variable {pairs others : List (String × String)} {name : String} {names : List String}
  {found : Option String}

/-- The values that arrive under a name, spelled in any way, in order. -/
def arrivals (pairs : List (String × String)) (name : String) : List String :=
  (pairs.filter fun pair => Text.lower pair.1 = Text.lower name).map Prod.snd

theorem arrivals_append (pairs others : List (String × String)) (name : String) :
    arrivals (pairs ++ others) name = arrivals pairs name ++ arrivals others name := by
  simp [arrivals]

theorem arrivals_cons (pair : String × String) (pairs : List (String × String)) (name : String) :
    arrivals (pair :: pairs) name =
      (if Text.lower pair.1 = Text.lower name then [pair.2] else []) ++ arrivals pairs name := by
  by_cases same : Text.lower pair.1 = Text.lower name <;> simp [arrivals, same]

/-- The value under a name is the one that arrived last. -/
theorem get?_ofList (pairs : List (String × String)) (name : String) :
    (ofList pairs).get? name = (arrivals pairs name).getLast? := by
  induction pairs using List.reverseRecOn with
  | nil => rfl
  | append_singleton pairs pair ih =>
    have last : ofList (pairs ++ [pair]) = (ofList pairs).set pair.1 pair.2 := by
      simp [ofList]
    rw [last, get?_set, ih, arrivals_append, arrivals_cons]
    by_cases same : Text.lower pair.1 = Text.lower name
    · simp [same, arrivals]
    · simp [same, Ne.symm same, arrivals]

/-! ## Reported values -/

/-- What is reported under several names: the last value under the first name for which it is not
blank, as it is, or nothing if there is none. -/
inductive Reports (pairs : List (String × String)) : List String → Option String → Prop
  | nothing : Reports pairs [] none
  | here {name value : String} {rest : List String}
      (last : (arrivals pairs name).getLast? = some value) (notBlank : Text.isBlank value = false) :
      Reports pairs (name :: rest) (some value)
  | later {name : String} {rest : List String} {found : Option String}
      (blank : ∀ value, (arrivals pairs name).getLast? = some value → Text.isBlank value = true)
      (next : Reports pairs rest found) : Reports pairs (name :: rest) found

theorem firstOf?_of_reports (h : Reports pairs names found) :
    (ofList pairs).firstOf? names = found := by
  induction h with
  | nothing => rfl
  | here last notBlank => simp [firstOf?, get?_ofList, last, notBlank]
  | @later name rest found blank next ih =>
    rw [firstOf?, get?_ofList]
    split
    · next value last => rw [if_pos (blank value last), ih]
    · exact ih

theorem reports_firstOf? (pairs : List (String × String)) (names : List String) :
    Reports pairs names ((ofList pairs).firstOf? names) := by
  induction names with
  | nil => exact .nothing
  | cons name rest ih =>
    rw [firstOf?, get?_ofList]
    cases last : (arrivals pairs name).getLast? with
    | none => exact .later (by simp [last]) ih
    | some value =>
      cases blank : Text.isBlank value with
      | false => simpa [blank] using Reports.here last blank
      | true => simpa [blank] using Reports.later (by simp [last, blank]) ih

/-- What is reported under several names is what is found among them. -/
theorem reports_iff : Reports pairs names found ↔ (ofList pairs).firstOf? names = found := by
  refine ⟨firstOf?_of_reports, ?_⟩
  rintro rfl
  exact reports_firstOf? pairs names

theorem firstOf?_congr_last
    (same : ∀ name ∈ names, (arrivals pairs name).getLast? = (arrivals others name).getLast?) :
    (ofList pairs).firstOf? names = (ofList others).firstOf? names := by
  induction names with
  | nil => rfl
  | cons name rest ih =>
    simp only [firstOf?, get?_ofList, same name List.mem_cons_self,
      ih fun other member => same other (List.mem_cons_of_mem name member)]

end Headers

/-! ## Contexts -/

namespace HeaderNames

/-- The names that a context is looked for under. -/
def ofContext : List String := requestId ++ storeId ++ authorizationModelId

end HeaderNames

namespace CallContext

variable {call : CallMetadata} {pairs others : List (String × String)} {names : List String}
  {given found : Option String}

/-- What becomes of a value that is known at the call: it is trimmed, and a blank one is none. -/
inductive Supplies : Option String → Option String → Prop
  | absent : Supplies none none
  | blank {s : String} (h : Text.isBlank s = true) : Supplies (some s) none
  | trimmed {s : String} (h : Text.isBlank s = false) : Supplies (some s) (some (Text.trim s))

theorem supplies_iff : Supplies given found ↔ given.bind Text.nonBlank = found := by
  constructor
  · rintro (_ | h | h) <;> simp_all [Text.nonBlank]
  · rintro rfl
    cases given with
    | none => exact .absent
    | some s =>
      cases h : Text.isBlank s with
      | true => simpa [Text.nonBlank, h] using Supplies.blank h
      | false => simpa [Text.nonBlank, h] using Supplies.trimmed h

/-- A value is the one that the response reports or, only if it reports none, the one of the
call. -/
inductive ReportsOrSupplies (pairs : List (String × String)) (names : List String)
    (given : Option String) : Option String → Prop
  | reported {value : String} (h : Headers.Reports pairs names (some value)) :
      ReportsOrSupplies pairs names given (some value)
  | supplied {found : Option String} (unreported : Headers.Reports pairs names none)
      (h : Supplies given found) : ReportsOrSupplies pairs names given found

theorem reportsOrSupplies_iff :
    ReportsOrSupplies pairs names given found ↔
      ((Headers.ofList pairs).firstOf? names <|> given.bind Text.nonBlank) = found := by
  constructor
  · rintro (h | ⟨unreported, h⟩)
    · simp [Headers.reports_iff.mp h]
    · simp [Headers.reports_iff.mp unreported, supplies_iff.mp h]
  · rintro rfl
    cases value : (Headers.ofList pairs).firstOf? names with
    | none => exact .supplied (Headers.reports_iff.mpr value) (supplies_iff.mpr (by simp))
    | some value' => exact .reported (Headers.reports_iff.mpr value)

/-- Where the fields of a context come from. -/
structure ComesFrom (call : CallMetadata) (pairs : List (String × String)) (c : CallContext) :
    Prop where
  operationName : Supplies (some call.operationName) c.operationName
  /-- Only the response names the request. -/
  requestId : Headers.Reports pairs ["fga-request-id", "x-request-id"] c.requestId
  storeId : ReportsOrSupplies pairs ["store_id", "fga-store-id"] call.storeId c.storeId
  authorizationModelId : ReportsOrSupplies pairs
    ["openfga_authorization_model_id", "openfga-authorization-model-id"] call.authorizationModelId
    c.authorizationModelId

/-- The sources of a context determine it. -/
theorem comesFrom_iff {c : CallContext} :
    c.ComesFrom call pairs ↔ capture call (some (Headers.ofList pairs)) = c := by
  constructor
  · rintro ⟨operationName, requestId, storeId, model⟩
    rw [supplies_iff] at operationName
    rw [Headers.reports_iff] at requestId
    rw [reportsOrSupplies_iff] at storeId model
    obtain ⟨_, _, _, _⟩ := c
    simp only [capture, CallContext.mk.injEq]
    exact ⟨operationName, requestId, storeId, model⟩
  · rintro rfl
    exact ⟨supplies_iff.mpr rfl, Headers.reports_iff.mpr rfl, reportsOrSupplies_iff.mpr rfl,
      reportsOrSupplies_iff.mpr rfl⟩

/-- A context depends on the last values under the names that it looks for. -/
theorem capture_congr (call : CallMetadata)
    (same : ∀ name ∈ HeaderNames.ofContext,
      (Headers.arrivals pairs name).getLast? = (Headers.arrivals others name).getLast?) :
    capture call (some (Headers.ofList pairs)) = capture call (some (Headers.ofList others)) := by
  have found (names : List String) (included : names ⊆ HeaderNames.ofContext) :
      reported (some (Headers.ofList pairs)) names =
        reported (some (Headers.ofList others)) names :=
    Headers.firstOf?_congr_last fun name member => same name (included member)
  simp only [capture, found _ (show HeaderNames.requestId ⊆ _ by simp [HeaderNames.ofContext]),
    found _ (show HeaderNames.storeId ⊆ _ by simp [HeaderNames.ofContext]),
    found _ (show HeaderNames.authorizationModelId ⊆ _ by simp [HeaderNames.ofContext])]

end CallContext

/-! ## Changes that do not matter -/

/-- One change to a list of headers that no context depends on. -/
inductive Headers.Rearranges : List (String × String) → List (String × String) → Prop
  /-- Two neighbours of different names change places. -/
  | swap {before after : List (String × String)} {a b : String × String}
      (distinct : Text.lower a.1 ≠ Text.lower b.1) :
      Rearranges (before ++ a :: b :: after) (before ++ b :: a :: after)
  /-- A name is spelled in another way. -/
  | respell {before after : List (String × String)} {name spelled value : String}
      (same : Text.lower name = Text.lower spelled) :
      Rearranges (before ++ (name, value) :: after) (before ++ (spelled, value) :: after)
  /-- A header is added that no context is looked for under. -/
  | unrelated {before after : List (String × String)} {pair : String × String}
      (other : Text.lower pair.1 ∉ HeaderNames.ofContext) :
      Rearranges (before ++ after) (before ++ pair :: after)

/-- A change that does not matter leaves the values under the names of a context as they are. -/
theorem Headers.Rearranges.arrivals_eq {pairs others : List (String × String)}
    (h : Rearranges pairs others) {name : String} (member : name ∈ HeaderNames.ofContext) :
    arrivals pairs name = arrivals others name := by
  have folded : Text.lower name = name := by
    revert name
    decide +kernel
  cases h with
  | swap distinct =>
    -- One of the two at most has the name, so their order does not show among its values.
    simp only [arrivals_append, arrivals_cons]
    grind
  | respell same => simp only [arrivals_append, arrivals_cons, same]
  | unrelated other =>
    have unnamed : ∀ pair : String × String, Text.lower pair.1 ∉ HeaderNames.ofContext →
        Text.lower pair.1 ≠ Text.lower name := by
      intro pair unknown same
      rw [same, folded] at unknown
      exact unknown member
    simp only [arrivals_append, arrivals_cons, if_neg (unnamed _ other), List.nil_append]

namespace CallContext

/-- Every field of a context comes from its place: a value that the response reports is kept as it
is, a value of the call fills the gaps, and without a response no request is named. Only the last
values under the names of a context matter: not the order of headers of different names, the
spelling of names or any other header. -/
theorem captures (call : CallMetadata) (pairs : List (String × String)) :
    (∀ c, capture call (some (Headers.ofList pairs)) = c ↔ c.ComesFrom call pairs) ∧
      (∀ others, (∀ name ∈ HeaderNames.ofContext,
          (Headers.arrivals pairs name).getLast? = (Headers.arrivals others name).getLast?) →
        capture call (some (Headers.ofList pairs)) = capture call (some (Headers.ofList others))) ∧
      (∀ others, Relation.EqvGen Headers.Rearranges pairs others →
        capture call (some (Headers.ofList pairs)) = capture call (some (Headers.ofList others))) ∧
      (capture call none).requestId = none := by
  refine ⟨fun c => comesFrom_iff.symm, fun others => capture_congr call,
    fun others rearranged => ?_, rfl⟩
  refine capture_congr call fun name member => ?_
  -- Induction on the changes one after the other, each of which may be made or undone.
  induction rearranged with
  | rel pairs others step => rw [step.arrivals_eq member]
  | refl pairs => rfl
  | symm pairs others _ ih => exact ih.symm
  | trans pairs others final _ _ ih ih' => exact ih.trans ih'

end CallContext

end TupleClient
