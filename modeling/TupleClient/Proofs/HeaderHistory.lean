import Mathlib.Data.Finset.Card
import Mathlib.Data.List.Forall2
import TupleClient.Proofs.ByteOrder
import TupleClient.Proofs.Context

/-!
# Headers after any history

Headers are a map from names, taken up to the case of ASCII letters, to values. Whatever values are
set one after the other, each name keeps the value that was set last, stands once among the entries,
in lower case, and the entries ascend in the order of the bytes of their names. Characters beyond
ASCII are different from every other character.

## Main definitions

* `Text.SameName` — names are the same up to the case of ASCII letters
* `Headers.setAll` — values set one after the other
* `Headers.Ordered` — the entries have names in lower case, in ascending order

## Main results

* `Text.lower_eq_lower_iff` — folding identifies the names that are the same up to case
* `Headers.Ordered.set`, `Headers.ordered_ofList` — setting a value keeps the entries in order
* `Headers.get?_eq_some_iff` — a value that is read was set last
* `Headers.size_ofList` — the entries are as many as there are different names
* `Headers.history_folded` — what a history of values leaves
-/

namespace TupleClient

namespace Text

/-! ## Names up to the case of ASCII letters -/

/-- A character is a capital ASCII letter, and the other one is its small form, 32 places later. -/
def IsCapitalOf (c d : Char) : Prop := 'A' ≤ c ∧ c ≤ 'Z' ∧ d.toNat = c.toNat + 32

/-- Two characters are equal, or the capital and the small form of one ASCII letter. -/
def SameLetter (c d : Char) : Prop := c = d ∨ IsCapitalOf c d ∨ IsCapitalOf d c

/-- Two names are the same up to the case of ASCII letters. -/
def SameName (s t : String) : Prop := List.Forall₂ SameLetter s.toList t.toList

theorem capital_iff {c : Char} : 'A' ≤ c ∧ c ≤ 'Z' ↔ 65 ≤ c.toNat ∧ c.toNat ≤ 90 := by
  rw [Char.le_def, Char.le_def, UInt32.le_iff_toNat_le, UInt32.le_iff_toNat_le]
  rfl

theorem toNat_toLower (c : Char) :
    c.toLower.toNat = if 65 ≤ c.toNat ∧ c.toNat ≤ 90 then c.toNat + 32 else c.toNat := by
  unfold Char.toLower
  split
  · next capital =>
    have bounds := capital_iff.mp capital
    have room : c.val.toNat + 32 < 2 ^ 32 := by
      have atMost : c.val.toNat ≤ 90 := bounds.2
      omega
    rw [if_pos bounds]
    show (c.val + 32).toNat = c.val.toNat + 32
    rw [UInt32.toNat_add]
    exact Nat.mod_eq_of_lt room
  · next other => rw [if_neg (mt capital_iff.mpr other)]

theorem sameLetter_iff {c d : Char} :
    SameLetter c d ↔ c.toNat = d.toNat ∨
      ((65 ≤ c.toNat ∧ c.toNat ≤ 90) ∧ d.toNat = c.toNat + 32) ∨
      ((65 ≤ d.toNat ∧ d.toNat ≤ 90) ∧ c.toNat = d.toNat + 32) := by
  rw [SameLetter, IsCapitalOf, IsCapitalOf, ← and_assoc, ← and_assoc, capital_iff, capital_iff,
    Char.toNat_inj]

/-- Folding identifies a capital with its small form, and no other characters. -/
theorem toLower_eq_toLower_iff {c d : Char} : c.toLower = d.toLower ↔ SameLetter c d := by
  rw [← Char.toNat_inj, toNat_toLower, toNat_toLower, sameLetter_iff]
  split_ifs <;> omega

/-- Folding identifies the names that are the same up to the case of ASCII letters. -/
theorem lower_eq_lower_iff {s t : String} : lower s = lower t ↔ SameName s t := by
  rw [lower, lower, ← String.toList_inj, String.toList_map, String.toList_map, SameName,
    ← List.forall₂_eq_eq_eq, List.forall₂_map_left_iff, List.forall₂_map_right_iff]
  simp only [toLower_eq_toLower_iff]

/-- A character beyond ASCII is the same letter as no other one. -/
theorem not_sameLetter {c d : Char} (distinct : c ≠ d) (beyond : 127 < c.toNat ∨ 127 < d.toNat) :
    ¬ SameLetter c d := by
  have points : c.toNat ≠ d.toNat := mt Char.toNat_inj.mp distinct
  rw [sameLetter_iff]
  omega

/-- A folded character is the same letter as before. -/
theorem sameLetter_toLower (c : Char) : SameLetter c.toLower c := by
  rw [sameLetter_iff, toNat_toLower]
  split_ifs <;> omega

theorem sameName_lower (s : String) : SameName (lower s) s := by
  rw [SameName, lower, String.toList_map, List.forall₂_map_left_iff]
  exact List.forall₂_same.mpr fun c _ => sameLetter_toLower c

/-- A folded name is folded already. -/
theorem lower_lower (s : String) : lower (lower s) = lower s :=
  lower_eq_lower_iff.mpr (sameName_lower s)

/-- A folded name has no capital ASCII letter. -/
theorem not_capital_of_mem_lower {s : String} {c : Char} (member : c ∈ (lower s).toList) :
    ¬ ('A' ≤ c ∧ c ≤ 'Z') := by
  rw [lower, String.toList_map, List.mem_map] at member
  obtain ⟨d, -, rfl⟩ := member
  rw [capital_iff, toNat_toLower]
  split_ifs <;> omega

/-- Being the same name is an equivalence. -/
def names : Setoid String where
  r := SameName
  iseqv := {
    refl := fun _ => lower_eq_lower_iff.mp rfl
    symm := fun same => lower_eq_lower_iff.mp (lower_eq_lower_iff.mpr same).symm
    trans := fun first second => lower_eq_lower_iff.mp
      ((lower_eq_lower_iff.mpr first).trans (lower_eq_lower_iff.mpr second)) }

instance decidableNames (s t : String) : Decidable (names.r s t) :=
  decidable_of_iff (lower s = lower t) lower_eq_lower_iff

/-- A name up to the case of ASCII letters. -/
def Name : Type := Quotient names

instance : DecidableEq Name := inferInstanceAs (DecidableEq (Quotient names))

/-- What a name is up to case. -/
def Name.of (s : String) : Name := Quotient.mk names s

/-- The spelling of a name in lower case. -/
def Name.folded : Name → String := Quotient.lift lower fun _ _ same => lower_eq_lower_iff.mpr same

theorem Name.folded_injective : Function.Injective Name.folded := by
  rintro ⟨s⟩ ⟨t⟩ same
  exact Quotient.sound (lower_eq_lower_iff.mp same)

end Text

namespace Fields

/-- In an ascending list, what stands under a name is what is found. -/
theorem mem_iff_find? {α : Type} {fields : Fields α} (ascending : Ascending fields) {name : String}
    {value : α} : (name, value) ∈ fields ↔ find? name fields = some value := by
  induction fields with
  | nil => simp
  | cons head rest ih =>
    obtain ⟨n, v⟩ := head
    obtain ⟨first, ascending⟩ := List.pairwise_cons.mp ascending
    rw [List.mem_cons, find?_cons, ih ascending]
    by_cases here : n = name
    · subst here
      -- The rest has only greater names.
      have absent : find? n rest ≠ some value := fun found =>
        String.lt_irrefl n (first (n, value) ((ih ascending).mpr found))
      simp [absent, eq_comm]
    · simp [here, Ne.symm here]

end Fields

namespace Headers

open Text (SameName)

/-! ## Histories -/

/-- The headers after values are set one after the other. -/
def setAll (h : Headers) (steps : List (String × String)) : Headers :=
  steps.foldl (fun h step => h.set step.1 step.2) h

/-- Under a name, spelled in any way, a value is the last one that was set. -/
def LastSet (history : List (String × String)) (name value : String) : Prop :=
  ∃ before pair after, history = before ++ pair :: after ∧ SameName pair.1 name ∧ pair.2 = value ∧
    ∀ later ∈ after, ¬ SameName later.1 name

/-- The names of the entries are in lower case and in ascending order. -/
structure Ordered (h : Headers) : Prop where
  folded : ∀ entry ∈ h.entries, Text.lower entry.1 = entry.1
  ascending : Fields.Ascending h.entries

variable {h : Headers} {history : List (String × String)} {name value : String}

theorem setAll_ofList (pairs steps : List (String × String)) :
    (ofList pairs).setAll steps = ofList (pairs ++ steps) :=
  (List.foldl_append ..).symm

/-- Setting a value keeps the entries in order. -/
theorem Ordered.set (ordered : h.Ordered) (name value : String) : (h.set name value).Ordered where
  folded entry member := by
    rcases Fields.mem_store member with rfl | member
    · exact Text.lower_lower name
    · exact ordered.folded entry member
  ascending := Fields.ascending_store ordered.ascending _ _

/-- The entries are in order after any history. -/
theorem ordered_ofList (history : List (String × String)) : (ofList history).Ordered := by
  induction history using List.reverseRecOn with
  | nil => exact ⟨by simp [ofList, empty], List.Pairwise.nil⟩
  | append_singleton history pair ih =>
    rw [← setAll_ofList]
    exact ih.set pair.1 pair.2

theorem Ordered.mem_iff (ordered : h.Ordered) :
    (name, value) ∈ h.entries ↔ Text.lower name = name ∧ h.get? name = some value := by
  constructor
  · intro member
    have folded := ordered.folded _ member
    exact ⟨folded, by rw [get?, folded, ← Fields.mem_iff_find? ordered.ascending]; exact member⟩
  · rintro ⟨folded, found⟩
    rwa [get?, folded, ← Fields.mem_iff_find? ordered.ascending] at found

/-! ## What a history leaves -/

theorem get?_ofList_eq_find? (history : List (String × String)) (name : String) :
    (ofList history).get? name =
      (history.reverse.find? fun pair => Text.lower pair.1 = Text.lower name).map Prod.snd := by
  rw [get?_ofList, arrivals, List.getLast?_map, List.getLast?_filter]

/-- A value is read under a name exactly if it was set last. -/
theorem get?_eq_some_iff :
    (ofList history).get? name = some value ↔ LastSet history name value := by
  rw [get?_ofList_eq_find?, Option.map_eq_some_iff]
  simp only [List.find?_eq_some_iff_append, decide_eq_true_eq, Text.lower_eq_lower_iff,
    Bool.not_eq_true', decide_eq_false_iff_not]
  constructor
  · rintro ⟨pair, ⟨same, after, before, whole, others⟩, rfl⟩
    refine ⟨before.reverse, pair, after.reverse, ?_, same, rfl, by simpa using others⟩
    simpa using congrArg List.reverse whole
  · rintro ⟨before, pair, after, rfl, same, rfl, others⟩
    exact ⟨pair, ⟨same, after.reverse, before.reverse, by simp, by simpa using others⟩, rfl⟩

/-- Nothing is read under a name exactly if no value was set. -/
theorem get?_eq_none_iff :
    (ofList history).get? name = none ↔ ∀ pair ∈ history, ¬ SameName pair.1 name := by
  rw [get?_ofList_eq_find?]
  simp [Text.lower_eq_lower_iff]

theorem mem_names_iff :
    name ∈ (ofList history).entries.map Prod.fst ↔
      name ∈ history.map fun pair => Text.lower pair.1 := by
  have ordered := ordered_ofList history
  constructor
  · intro member
    obtain ⟨entry, stored, rfl⟩ := List.mem_map.mp member
    obtain ⟨folded, found⟩ := ordered.mem_iff.mp stored
    obtain ⟨before, pair, after, rfl, same, -, -⟩ := get?_eq_some_iff.mp found
    exact List.mem_map.mpr
      ⟨pair, by simp, (Text.lower_eq_lower_iff.mpr same).trans folded⟩
  · intro member
    obtain ⟨pair, arrived, rfl⟩ := List.mem_map.mp member
    have same : SameName pair.1 (Text.lower pair.1) :=
      Text.lower_eq_lower_iff.mp (Text.lower_lower pair.1).symm
    obtain ⟨value, found⟩ := Option.ne_none_iff_exists'.mp
      fun absent => get?_eq_none_iff.mp absent pair arrived same
    exact List.mem_map.mpr ⟨_, ordered.mem_iff.mpr ⟨Text.lower_lower pair.1, found⟩, rfl⟩

/-- The names of the entries are all different. -/
theorem Ordered.nodup (ordered : h.Ordered) : (h.entries.map Prod.fst).Nodup := by
  refine List.Pairwise.map _ ?_ ordered.ascending
  intro a b smaller same
  rw [same] at smaller
  exact String.lt_irrefl _ smaller

/-- There are as many entries as different names. -/
theorem size_ofList (history : List (String × String)) :
    (ofList history).size = (history.map fun pair => Text.Name.of pair.1).toFinset.card := by
  let given := history.map fun pair => Text.Name.of pair.1
  have folded : given.map Text.Name.folded = history.map fun pair => Text.lower pair.1 :=
    List.map_map
  have names : ((ofList history).entries.map Prod.fst).toFinset =
      given.toFinset.image Text.Name.folded := by
    ext name
    rw [List.mem_toFinset, mem_names_iff, ← folded, List.mem_map, Finset.mem_image]
    simp only [List.mem_toFinset]
  calc (ofList history).size = ((ofList history).entries.map Prod.fst).toFinset.card := by
        rw [List.toFinset_card_of_nodup (ordered_ofList history).nodup, List.length_map, size]
    _ = (given.toFinset.image Text.Name.folded).card := by rw [names]
    _ = given.toFinset.card := Finset.card_image_of_injective _ Text.Name.folded_injective

/-- Two entries with names that are the same up to case are one. -/
theorem Ordered.eq_of_sameName (ordered : h.Ordered) {a b : String × String} (first : a ∈ h.entries)
    (second : b ∈ h.entries) (same : SameName a.1 b.1) : a = b := by
  have named : a.1 = b.1 := by
    rw [← ordered.folded a first, ← ordered.folded b second]
    exact Text.lower_eq_lower_iff.mpr same
  exact List.inj_on_of_nodup_map ordered.nodup first second named

/-- What headers keep of the values that were set one after the other. -/
structure Reflects (h : Headers) (history : List (String × String)) : Prop where
  /-- No name has a capital ASCII letter. -/
  folded : ∀ entry ∈ h.entries, ∀ c ∈ entry.1.toList, ¬ ('A' ≤ c ∧ c ≤ 'Z')
  get?_eq_some_iff : ∀ name value, h.get? name = some value ↔ LastSet history name value
  get?_eq_none_iff : ∀ name, h.get? name = none ↔ ∀ pair ∈ history, ¬ SameName pair.1 name
  /-- There are as many entries as names that were set, up to case. -/
  size_eq : h.size = (history.map fun pair => Text.Name.of pair.1).toFinset.card
  /-- The bytes of the names ascend strictly. -/
  ascending : h.entries.Pairwise fun a b => Utf8.encode a.1 < Utf8.encode b.1
  get?_entry : ∀ entry ∈ h.entries, h.get? entry.1 = some entry.2
  /-- Every name that was set stands once among the entries. -/
  once : ∀ pair ∈ history, ∃! entry, entry ∈ h.entries ∧ SameName pair.1 entry.1
  /-- No other name does. -/
  set : ∀ entry ∈ h.entries, ∃ pair ∈ history, SameName pair.1 entry.1

theorem reflects_ofList (history : List (String × String)) :
    (ofList history).Reflects history := by
  have ordered := ordered_ofList history
  refine ⟨?_, fun _ _ => get?_eq_some_iff, fun _ => get?_eq_none_iff, size_ofList history, ?_, ?_,
    ?_, ?_⟩
  · intro entry member c inside
    rw [← ordered.folded entry member] at inside
    exact Text.not_capital_of_mem_lower inside
  · exact ordered.ascending.imp Utf8.encode_lt_of_lt
  · exact fun entry member => (ordered.mem_iff.mp member).2
  · intro pair member
    obtain ⟨entry, stored, named⟩ := List.mem_map.mp (mem_names_iff.mpr
      (List.mem_map_of_mem (f := fun pair => Text.lower pair.1) member))
    have same : SameName pair.1 entry.1 :=
      Text.lower_eq_lower_iff.mp (by rw [named, Text.lower_lower])
    refine ⟨entry, ⟨stored, same⟩, fun other ⟨otherStored, otherSame⟩ => ?_⟩
    exact ordered.eq_of_sameName otherStored stored
      (Text.names.iseqv.trans (Text.names.iseqv.symm otherSame) same)
  · intro entry stored
    obtain ⟨pair, member, named⟩ := List.mem_map.mp (mem_names_iff.mp (List.mem_map_of_mem stored))
    exact ⟨pair, member, Text.lower_eq_lower_iff.mp (by rw [named, ordered.folded entry stored])⟩

/-- A value that is set under a name does not show under one that has another character beyond ASCII
in its place. -/
theorem get?_set_of_ne {i : ℕ} {c d : Char} {name other : String} (h : Headers) (value : String)
    (left : name.toList[i]? = some c) (right : other.toList[i]? = some d) (distinct : c ≠ d)
    (beyond : 127 < c.toNat ∨ 127 < d.toNat) : (h.set other value).get? name = h.get? name := by
  obtain ⟨leftInside, rfl⟩ := List.getElem?_eq_some_iff.mp left
  obtain ⟨rightInside, rfl⟩ := List.getElem?_eq_some_iff.mp right
  rw [get?_set, if_neg]
  intro same
  have letters := (Text.lower_eq_lower_iff.mp same).get leftInside rightInside
  exact absurd letters (Text.not_sameLetter distinct beyond)

/-- Headers keep of any history of values what a map from names up to the case of ASCII letters
keeps, however the history begins with a list of pairs and goes on with single values. Characters
beyond ASCII are not folded: setting a value under a name does not show under another name that
differs from it in one of them. -/
theorem history_folded (pairs steps : List (String × String)) :
    ((ofList pairs).setAll steps).Reflects (pairs ++ steps) ∧
      ∀ (name other value : String) (i : ℕ) (c d : Char), name.toList[i]? = some c →
        other.toList[i]? = some d → c ≠ d → (127 < c.toNat ∨ 127 < d.toNat) →
        (((ofList pairs).setAll steps).set other value).get? name =
          ((ofList pairs).setAll steps).get? name := by
  constructor
  · rw [setAll_ofList]
    exact reflects_ofList (pairs ++ steps)
  · exact fun name other value i c d left right distinct beyond =>
      get?_set_of_ne _ value left right distinct beyond

/-- The two forms of an ASCII letter are one, and those of another letter are not. -/
theorem history_folded_umlaut :
    let h := (ofList [("X-Ä", "1")]).setAll [("x-ä", "2"), ("x-Ä", "3")]
    (∀ value, h.get? "X-Ä" = some value ↔
      LastSet [("X-Ä", "1"), ("x-ä", "2"), ("x-Ä", "3")] "X-Ä" value) ∧
      (h.set "X-ä" "4").get? "X-Ä" = h.get? "X-Ä" := by
  have folded := history_folded [("X-Ä", "1")] [("x-ä", "2"), ("x-Ä", "3")]
  exact ⟨folded.1.get?_eq_some_iff "X-Ä",
    folded.2 "X-Ä" "X-ä" "4" 2 'Ä' 'ä' (by decide) (by decide) (by decide) (by decide)⟩

end Headers

end TupleClient
