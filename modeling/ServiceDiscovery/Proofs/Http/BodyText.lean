import ServiceDiscovery.Http
import ServiceDiscovery.Proofs.Http.MediaType

namespace ServiceDiscovery.Http

open Charset MediaType Text

def FirstHeader (r : Response) (name : String) (bytes : List UInt8) : Prop :=
  ∃ before written after, r.headers = before ++ (written, bytes) :: after ∧
    equalFold written name = true ∧ ∀ header ∈ before, equalFold header.1 name = false

def Visible (b : UInt8) (c : Char) : Prop :=
  c.toNat = b.toNat ∧ (b.toNat = 9 ∨ 0x20 ≤ b.toNat ∧ b.toNat < 0x7f)

-- The first content type of a response is visible text that can be read, and the first of its
-- parameters for a charset names one that is known.
def Declares (r : Response) (charset : Charset) : Prop :=
  ∃ bytes text before name label after, FirstHeader r "content-type" bytes ∧
    List.Forall₂ Visible bytes text ∧ ContentType text (before ++ (name, label) :: after) ∧
    name.map lowerChar = "charset".toList ∧
    (∀ parameter ∈ before, parameter.1.map lowerChar ≠ "charset".toList) ∧ Names label charset

-- The text of a body, which is in UTF-8 unless the response declares a charset.
def BodyText (tables : Tables) (r : Response) (text : String) : Prop :=
  r.body = none ∧ text = "" ∨
    ∃ bytes charset, r.body = some bytes ∧
      (Declares r charset ∨ (∀ other, ¬ Declares r other) ∧ charset = .utf8) ∧
      Decodes tables charset bytes text.toList

theorem header_iff (r : Response) (name : String) (bytes : List UInt8) :
    r.header? name = some bytes ↔ FirstHeader r name bytes := by
  rw [Response.header?, Option.map_eq_some_iff]
  constructor
  · rintro ⟨⟨written, _⟩, found, rfl⟩
    obtain ⟨named, before, after, split, unnamed⟩ := List.find?_eq_some_iff_append.1 found
    refine ⟨before, written, after, split, named, fun header inside => ?_⟩
    simpa using unnamed header inside
  · rintro ⟨before, written, after, split, named, unnamed⟩
    refine ⟨(written, bytes),
      List.find?_eq_some_iff_append.2 ⟨named, before, after, split, ?_⟩, rfl⟩
    intro header inside
    simp [unnamed header inside]

theorem visible_iff (b : UInt8) (c : Char) :
    Visible b c ↔ Response.isVisible b = true ∧ Char.ofNat b.toNat = c := by
  have visible : Response.isVisible b = true ↔
      b.toNat = 9 ∨ 0x20 ≤ b.toNat ∧ b.toNat < 0x7f := by
    simp [Response.isVisible, ← UInt8.toNat_inj, UInt8.le_iff_toNat_le, UInt8.lt_iff_toNat_lt]
  rw [Visible, visible, and_comm]
  refine and_congr_right fun _ => ⟨fun same => ?_, ?_⟩
  · rw [← same, Char.ofNat_toNat]
  · rintro rfl
    exact toNat_of_valid (.inl (Nat.lt_trans b.toNat_lt (by decide)))

theorem visible_text_iff (bytes : List UInt8) (text : List Char) :
    List.Forall₂ Visible bytes text ↔
      bytes.all Response.isVisible = true ∧ (bytes.map fun b => Char.ofNat b.toNat) = text := by
  induction bytes generalizing text with
  | nil => simp [eq_comm]
  | cons b rest ih =>
      simp only [List.forall₂_cons_left_iff, ih, visible_iff, List.all_cons, Bool.and_eq_true,
        List.map_cons]
      constructor
      · rintro ⟨_, _, ⟨visible, rfl⟩, ⟨others, rfl⟩, rfl⟩
        exact ⟨⟨visible, others⟩, rfl⟩
      · rintro ⟨⟨visible, others⟩, rfl⟩
        exact ⟨_, _, ⟨visible, rfl⟩, ⟨others, rfl⟩, rfl⟩

theorem header_text_iff (r : Response) (name : String) (text : List Char) :
    r.headerText? name = some (.ofList text) ↔
      ∃ bytes, FirstHeader r name bytes ∧ List.Forall₂ Visible bytes text := by
  simp only [Response.headerText?, Option.bind_eq_bind, Option.bind_eq_some_iff, header_iff,
    visible_text_iff]
  refine exists_congr fun bytes => and_congr_right fun _ => ?_
  split
  · rename_i visible
    simp [visible, String.ofList_inj]
  · rename_i hidden
    simp [hidden]

theorem charset_iff (text : List Char) (charset : Charset) :
    MediaType.charset? text = some charset ↔
      ∃ before name label after, ContentType text (before ++ (name, label) :: after) ∧
        name.map lowerChar = "charset".toList ∧
        (∀ parameter ∈ before, parameter.1.map lowerChar ≠ "charset".toList) ∧
        Names label charset := by
  simp only [charset?, Option.bind_eq_bind, Option.bind_eq_some_iff, ← content_type_iff,
    ← names_iff, List.find?_eq_some_iff_append]
  constructor
  · rintro ⟨parameters, written, ⟨name, label⟩, ⟨named, before, after, rfl, others⟩, known⟩
    refine ⟨before, name, label, after, written, of_decide_eq_true named, ?_, known⟩
    intro parameter inside
    have differs := others parameter inside
    rw [Bool.not_eq_true'] at differs
    exact of_decide_eq_false differs
  · rintro ⟨before, name, label, after, written, named, others, known⟩
    refine ⟨_, written, (name, label), ⟨decide_eq_true named, before, after, rfl, ?_⟩, known⟩
    intro parameter inside
    rw [decide_eq_false (others parameter inside)]
    rfl

theorem declares_iff (r : Response) (charset : Charset) :
    Declares r charset ↔
      (r.headerText? "content-type").bind (fun text => charset? text.toList) = some charset := by
  rw [Option.bind_eq_some_iff]
  constructor
  · rintro ⟨bytes, text, before, name, label, after, first, visible, written⟩
    refine ⟨.ofList text, (header_text_iff r _ text).2 ⟨bytes, first, visible⟩, ?_⟩
    rw [String.toList_ofList, charset_iff]
    exact ⟨before, name, label, after, written⟩
  · rintro ⟨text, found, declared⟩
    rw [← String.ofList_toList (s := text)] at found
    obtain ⟨bytes, first, visible⟩ := (header_text_iff r _ _).1 found
    obtain ⟨before, name, label, after, written⟩ := (charset_iff _ charset).1 declared
    exact ⟨bytes, _, before, name, label, after, first, visible, written⟩

theorem charset_of_response (r : Response) (charset : Charset) :
    (Declares r charset ∨ (∀ other, ¬ Declares r other) ∧ charset = .utf8) ↔
      r.charset = charset := by
  rw [Response.charset]
  simp only [declares_iff]
  cases (r.headerText? "content-type").bind fun text => charset? text.toList with
  | none => simp only [reduceCtorEq, not_false_eq_true, implies_true, true_and, false_or,
      Option.getD_none, eq_comm]
  | some declared => simp

theorem body_text_iff (tables : Tables) (r : Response) (text : String) :
    BodyText tables r text ↔ r.bodyText tables = text := by
  simp only [BodyText, charset_of_response, decodes_iff, Response.bodyText]
  constructor
  · rintro (⟨missing, rfl⟩ | ⟨bytes, _, found, rfl, decoded⟩)
    · rw [missing]
      rfl
    · rw [found, Option.elim, decoded, String.ofList_toList]
  · rintro rfl
    cases r.body with
    | none => exact .inl ⟨rfl, rfl⟩
    | some bytes => exact .inr ⟨bytes, _, rfl, rfl, String.toList_ofList.symm⟩

end ServiceDiscovery.Http
