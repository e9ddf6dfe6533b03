import TupleClient.Fields
import TupleClient.Text.Blank

/-!
# Response headers

Header names are compared without regard to the case of ASCII letters; letters beyond ASCII are
never folded. A name that is set again keeps its last value.

## Main definitions

* `Headers` — header values under lower-case names, in ascending order of name
* `Headers.set`, `Headers.get?`, `Headers.ofList` — setting and reading values
* `Headers.firstOf?` — the first value among several names that is not blank
* `HeaderNames.requestId` and its fellows — the names under which the service reports what it
  worked on

## Main results

* `Headers.get?_set` — the value set last is the one read
-/

namespace TupleClient

namespace Text

/-- A text with its ASCII letters in lower case. -/
def lower (s : String) : String := s.map Char.toLower

end Text

/-- Header values by lower-case name. -/
structure Headers where
  entries : Fields String := []
deriving DecidableEq, Inhabited

namespace Headers

/-- No headers. -/
def empty : Headers := {}

/-- The headers with a value set under a name. -/
def set (h : Headers) (name value : String) : Headers :=
  ⟨Fields.store (Text.lower name) value h.entries⟩

/-- The value under a name. -/
def get? (h : Headers) (name : String) : Option String :=
  Fields.find? (Text.lower name) h.entries

/-- The headers of pairs in order of arrival. -/
def ofList (pairs : List (String × String)) : Headers :=
  pairs.foldl (fun h pair => h.set pair.1 pair.2) empty

/-- The number of different names. -/
def size (h : Headers) : Nat := h.entries.length

/-- The first of the names' values that is present and not blank. -/
def firstOf? (h : Headers) : List String → Option String
  | [] => none
  | name :: rest =>
    match h.get? name with
    | some value => if Text.isBlank value then firstOf? h rest else some value
    | none => firstOf? h rest

/-- The value set last is the one read, and no other name is affected. -/
theorem get?_set (h : Headers) (name other value : String) :
    (h.set name value).get? other =
      if Text.lower other = Text.lower name then some value else h.get? other :=
  Fields.find?_store _ _ _ _

end Headers

namespace HeaderNames

/-- The names that may carry the identifier of a request. -/
def requestId : List String := ["fga-request-id", "x-request-id"]

/-- The names that may carry the identifier of a store. -/
def storeId : List String := ["store_id", "fga-store-id"]

/-- The names that may carry the identifier of an authorization model. -/
def authorizationModelId : List String :=
  ["openfga_authorization_model_id", "openfga-authorization-model-id"]

end HeaderNames

end TupleClient
