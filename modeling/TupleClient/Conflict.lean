import TupleClient.Json.Decode

/-!
# Conflict policies

A write of a tuple that is present and a delete of a tuple that is absent are conflicts. A policy
has one directive for each of the two: reject the request, or ignore the conflicting tuple.

## Main definitions

* `Directive` — reject or ignore a conflict
* `ConflictPolicy` — the directives for the two kinds of conflict
* `ConflictPolicy.strict`, `ConflictPolicy.idempotent` — the policies with equal directives
-/

namespace TupleClient

/-- What becomes of a request with a conflict. -/
inductive Directive where
  /-- The request is rejected. -/
  | error
  /-- The conflicting tuple is passed over. -/
  | ignore
deriving DecidableEq, Inhabited

namespace Directive

/-- The name of a directive. -/
def name : Directive → String
  | error => "error"
  | ignore => "ignore"

/-- The data of a directive. -/
def encode (d : Directive) : Json := .str d.name

/-- The directive of data. -/
def decode : Decoder Directive := Decode.variant ("error", .error) ("ignore", .ignore)

end Directive

/-- The directives for duplicate writes and for missing deletes. -/
structure ConflictPolicy where
  onDuplicateWrite : Directive := .error
  onMissingDelete : Directive := .error
deriving DecidableEq, Inhabited

namespace ConflictPolicy

/-- The policy that rejects every conflict. -/
def strict : ConflictPolicy := ⟨.error, .error⟩

/-- The policy that ignores every conflict. -/
def idempotent : ConflictPolicy := ⟨.ignore, .ignore⟩

/-- The data of a policy. -/
def encode (p : ConflictPolicy) : Json :=
  .obj [("on_duplicate_write", p.onDuplicateWrite.encode),
    ("on_missing_delete", p.onMissingDelete.encode)]

/-- The policy of data. -/
def decode : Decoder ConflictPolicy :=
  Record.decode "ConflictPolicy"
    (((Record.optional "on_duplicate_write" Directive.decode .error).map ConflictPolicy.mk).seq
      (Record.optional "on_missing_delete" Directive.decode .error))

end ConflictPolicy

end TupleClient
