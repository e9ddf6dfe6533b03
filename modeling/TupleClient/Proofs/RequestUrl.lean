import Mathlib.Data.List.DropRight
import TupleClient.Connection
import TupleClient.Http.Exchange

/-!
# The addresses of requests

The address of a request is a base address without slashes at its end, followed by the path, with
one slash between them at least. Settings are valid if their address names a web scheme after blanks
at its ends are taken off, but the base address is made of the address as it is written. So the
blanks stay: those in front, and those behind, which also keep the slashes before them. Only if
there are no blanks to take off is the address of a request the one that the trimmed address
promises.

## Main definitions

* `Text.blanksIn` — the blanks of a text, in order
* `Endpoint.below` — the address of a path below a base address

## Main results

* `Endpoint.withoutFinalSlashes_blanks` — what is left of an address with blanks at its ends
* `Endpoint.blanksIn_below` — joining adds no blanks
* `Client.urlOf_connected` — which addresses a client requests
-/

namespace TupleClient

namespace Text

/-- A list is what is trimmed off its two ends around what is left. -/
theorem exists_trimList {α : Type} (p : α → Bool) (cs : List α) :
    ∃ lead trail, cs = lead ++ trimList p cs ++ trail ∧
      (∀ c ∈ lead, p c = true) ∧ ∀ c ∈ trail, p c = true := by
  refine ⟨cs.takeWhile p, ((cs.dropWhile p).reverse.takeWhile p).reverse, ?_, ?_, ?_⟩
  · -- What is dropped at the back is what the reverse starts with.
    have back := congrArg List.reverse
      (List.takeWhile_append_dropWhile (p := p) (l := (cs.dropWhile p).reverse))
    rw [List.reverse_append, List.reverse_reverse] at back
    rw [trimList, List.append_assoc, back, List.takeWhile_append_dropWhile]
  · exact fun c member => List.mem_takeWhile_imp member
  · exact fun c member => List.mem_takeWhile_imp (List.mem_reverse.mp member)

/-- A text is blanks around what is left when it is trimmed. -/
theorem exists_trim (s : String) :
    ∃ lead trail, s = lead ++ trim s ++ trail ∧ isBlank lead = true ∧ isBlank trail = true := by
  obtain ⟨lead, trail, whole, leadBlank, trailBlank⟩ := exists_trimList isBlankChar s.toList
  refine ⟨String.ofList lead, String.ofList trail, ?_, by simpa [isBlank] using leadBlank,
    by simpa [isBlank] using trailBlank⟩
  apply String.toList_injective
  simpa [trim] using whole

/-- The blanks of a text, in order. -/
def blanksIn (s : String) : List Char := s.toList.filter isBlankChar

@[simp] theorem blanksIn_append (s t : String) : blanksIn (s ++ t) = blanksIn s ++ blanksIn t := by
  simp [blanksIn]

theorem blanksIn_of_isBlank {s : String} (blank : isBlank s = true) : blanksIn s = s.toList :=
  List.filter_eq_self.mpr (List.all_eq_true.mp blank)

/-- A text has the blanks of what is left when it is trimmed exactly if nothing is trimmed off. -/
theorem blanksIn_trim_iff (s : String) : blanksIn s = blanksIn (trim s) ↔ trim s = s := by
  refine ⟨fun same => ?_, fun plain => by rw [plain]⟩
  obtain ⟨lead, trail, whole, leadBlank, trailBlank⟩ := exists_trim s
  generalize trim s = core at whole same ⊢
  subst whole
  have lengths := congrArg List.length same
  simp only [blanksIn_append, blanksIn_of_isBlank leadBlank, blanksIn_of_isBlank trailBlank,
    List.length_append, String.length_toList] at lengths
  have leadEmpty : lead = "" := String.length_eq_zero_iff.mp (by omega)
  have trailEmpty : trail = "" := String.length_eq_zero_iff.mp (by omega)
  simp [leadEmpty, trailEmpty]

end Text

namespace Endpoint

/-! ## Final slashes -/

theorem toList_withoutFinalSlashes (s : String) :
    (withoutFinalSlashes s).toList = s.toList.rdropWhile (· = '/') := by
  simp [withoutFinalSlashes, List.rdropWhile]

theorem getLast?_withoutFinalSlashes (s : String) :
    (withoutFinalSlashes s).toList.getLast? ≠ some '/' := by
  intro slash
  rw [toList_withoutFinalSlashes, List.getLast?_eq_some_iff] at slash
  obtain ⟨front, whole⟩ := slash
  have last := List.rdropWhile_last_not (p := (· = '/')) s.toList (by simp [whole])
  simp [whole] at last

theorem rdropWhile_append {α : Type} {p : α → Bool} {lead : List α} (cs : List α)
    (stay : ∀ c ∈ lead, p c = false) : (lead ++ cs).rdropWhile p = lead ++ cs.rdropWhile p := by
  induction cs using List.reverseRecOn with
  | nil =>
    rw [List.append_nil, List.rdropWhile_nil, List.append_nil, List.rdropWhile_eq_self_iff]
    exact fun nonempty => by simp [stay _ (List.getLast_mem nonempty)]
  | append_singleton cs c ih =>
    rw [← List.append_assoc, List.rdropWhile_concat, List.rdropWhile_concat, ih]
    split <;> simp

theorem not_slash_of_isBlankChar {c : Char} (blank : Text.isBlankChar c = true) :
    decide (c = '/') = false := by
  rw [decide_eq_false_iff_not]
  rintro rfl
  revert blank
  decide

theorem blanksIn_withoutFinalSlashes (s : String) :
    Text.blanksIn (withoutFinalSlashes s) = Text.blanksIn s := by
  have slashes : (s.toList.rtakeWhile (· = '/')).filter Text.isBlankChar = [] := by
    refine List.filter_eq_nil_iff.mpr fun c member blank => ?_
    have slash := List.mem_rtakeWhile_imp member
    rw [not_slash_of_isBlankChar blank] at slash
    exact Bool.noConfusion slash
  rw [Text.blanksIn, Text.blanksIn, toList_withoutFinalSlashes]
  nth_rewrite 2 [← List.rdropWhile_append_rtakeWhile (p := (· = '/')) (l := s.toList)]
  rw [List.filter_append, slashes, List.append_nil]

/-- Blanks in front of an address stay. So do blanks behind it, and the slashes before these. -/
theorem withoutFinalSlashes_blanks {lead core trail : String} (leadBlank : Text.isBlank lead = true)
    (trailBlank : Text.isBlank trail = true) :
    withoutFinalSlashes (lead ++ core ++ trail) =
      lead ++ if trail = "" then withoutFinalSlashes core else core ++ trail := by
  have notSlash {s : String} (blank : Text.isBlank s = true) :
      ∀ c ∈ s.toList, decide (c = '/') = false :=
    fun c member => not_slash_of_isBlankChar (List.all_eq_true.mp blank c member)
  apply String.toList_injective
  rw [toList_withoutFinalSlashes]
  split
  · next none =>
    simp only [none, String.append_empty, String.toList_append, toList_withoutFinalSlashes]
    exact rdropWhile_append _ (notSlash leadBlank)
  · next some =>
    -- The last character of all is a blank, so no slash is the last one.
    have nonempty : trail.toList ≠ [] := by simpa using some
    rw [← String.append_assoc, List.rdropWhile_eq_self_iff]
    intro _
    simp only [String.toList_append, List.getLast_append_of_ne_nil _ nonempty]
    simp [notSlash trailBlank _ (List.getLast_mem nonempty)]

/-! ## Joining -/

/-- The address of a path below a base address. -/
def below (base path : String) : String :=
  base ++ (if path.toList.head? = some '/' then "" else "/") ++ path

theorem urlOf_eq_below (e : Endpoint) (path : String) : e.urlOf path = below e.baseUrl path := by
  unfold urlOf below
  split <;> simp

theorem below_inj {base other path : String} :
    below base path = below other path ↔ base = other := by
  simp [below, String.append_assoc]

/-- Joining adds no blanks. -/
theorem blanksIn_below (base path : String) :
    Text.blanksIn (below base path) = Text.blanksIn base ++ Text.blanksIn path := by
  have joint : Text.blanksIn (if path.toList.head? = some '/' then "" else "/") = [] := by
    split <;> decide
  rw [below, Text.blanksIn_append, Text.blanksIn_append, joint, List.append_nil]

/-- An address and the trimmed address have the same base exactly if nothing is trimmed off. -/
theorem withoutFinalSlashes_trim_iff (url : String) :
    withoutFinalSlashes url = withoutFinalSlashes (Text.trim url) ↔ Text.trim url = url := by
  refine ⟨fun same => ?_, fun plain => by rw [plain]⟩
  -- The slashes at the end are no blanks, so that the blanks tell.
  have blanks := congrArg Text.blanksIn same
  rw [blanksIn_withoutFinalSlashes, blanksIn_withoutFinalSlashes] at blanks
  exact (Text.blanksIn_trim_iff url).mp blanks

end Endpoint

namespace Client

open Endpoint

variable {s : Settings} {c : Client} {endpoint : Endpoint}

/-- The address of a request is the base of the configured address, then the path, with a slash
between them if the path does not start with one. The base is the address as it is written: blanks
in front stay, blanks behind stay together with the slashes before them, and only where there are no
blanks behind are final slashes taken off.

The blanks in the address of a request are those of the configured address and those of the path. So
the trimmed address, without its final slashes, is the base of the requests exactly if nothing is
trimmed off it, and in no other case does the address of a request have just its blanks and those of
the path. -/
theorem urlOf_connected (connected : connect s = .ok (c, endpoint)) (path : String) :
    let url := s.connection.apiUrl
    let promised := below (withoutFinalSlashes (Text.trim url)) path
    (∃ lead trail, url = lead ++ Text.trim url ++ trail ∧ Text.isBlank lead = true ∧
        Text.isBlank trail = true ∧ endpoint.urlOf path = below (lead ++
          if trail = "" then withoutFinalSlashes (Text.trim url) else Text.trim url ++ trail)
          path) ∧
      endpoint.baseUrl.toList.getLast? ≠ some '/' ∧
      Text.blanksIn (endpoint.urlOf path) = Text.blanksIn url ++ Text.blanksIn path ∧
      (endpoint.urlOf path = promised ↔ Text.trim url = url) ∧
      (Text.blanksIn (endpoint.urlOf path) = Text.blanksIn (Text.trim url) ++ Text.blanksIn path ↔
        Text.trim url = url) := by
  intro url promised
  obtain ⟨-, named⟩ := connect_eq_ok_iff.mp connected
  have base : endpoint.baseUrl = withoutFinalSlashes url := baseUrl_ofUrl named
  have blanks : Text.blanksIn (endpoint.urlOf path) = Text.blanksIn url ++ Text.blanksIn path := by
    rw [urlOf_eq_below, base, blanksIn_below, blanksIn_withoutFinalSlashes]
  refine ⟨?_, base ▸ getLast?_withoutFinalSlashes url, blanks, ?_, ?_⟩
  · obtain ⟨lead, trail, whole, leadBlank, trailBlank⟩ := Text.exists_trim url
    refine ⟨lead, trail, whole, leadBlank, trailBlank, ?_⟩
    rw [urlOf_eq_below, base, ← withoutFinalSlashes_blanks leadBlank trailBlank, ← whole]
  · rw [urlOf_eq_below, base]
    exact below_inj.trans (withoutFinalSlashes_trim_iff url)
  · rw [blanks, List.append_cancel_right_eq]
    exact Text.blanksIn_trim_iff url

/-- Settings with an address, and otherwise as little as they need to be valid. -/
def settingsFor (url : String) : Settings := { connection := { apiUrl := url, storeId := "s" } }

theorem connect_settingsFor (url base : String) (valid : (settingsFor url).defect? = none)
    (named : Endpoint.ofUrl url = .ok { baseUrl := base }) :
    ∃ c, connect (settingsFor url) = .ok (c, { baseUrl := base }) :=
  ⟨⟨_, (Settings.defect?_eq_none_iff _).mp valid⟩, connect_eq_ok_iff.mpr ⟨rfl, named⟩⟩

/-- A slash at the end of the address and one in front of the path are not doubled. -/
theorem urlOf_connected_slash :
    let url := "http://[::1]:8080/"
    ∃ c endpoint, connect (settingsFor url) = .ok (c, endpoint) ∧
      endpoint.urlOf "/x" = "http://[::1]:8080/x" ∧ endpoint.urlOf "x" = "http://[::1]:8080/x" := by
  intro url
  obtain ⟨c, connected⟩ :=
    connect_settingsFor "http://[::1]:8080/" "http://[::1]:8080" (by decide +kernel) rfl
  have trimmed : Text.trim url = url := by decide +kernel
  have promised (path : String) := (urlOf_connected connected path).2.2.2.1.mpr trimmed
  exact ⟨c, _, connected, (promised "/x").trans (by decide +kernel),
    (promised "x").trans (by decide +kernel)⟩

/-- A blank behind the address is kept, and the slash before it. It goes out with each request. -/
theorem urlOf_blank_behind :
    let url := "http://[::1]:8080/ "
    ∃ c endpoint, connect (settingsFor url) = .ok (c, endpoint) ∧
      endpoint.urlOf "/x" = "http://[::1]:8080/ /x" ∧
      endpoint.urlOf "/x" ≠ below (withoutFinalSlashes (Text.trim url)) "/x" ∧
      ' ' ∉ (Text.trim url).toList ++ "/x".toList ∧
      (endpoint.message? { method := .get, path := "/x" }).map Message.target = some "/%20/x" := by
  intro url
  obtain ⟨c, connected⟩ :=
    connect_settingsFor "http://[::1]:8080/ " "http://[::1]:8080/ " (by decide +kernel) rfl
  refine ⟨c, _, connected, ?_, ?_, ?_, ?_⟩ <;> decide +kernel

end Client

end TupleClient
