import Mathlib.Data.List.Forall2
import ServiceDiscovery.Proofs.Text.Decimal

namespace ServiceDiscovery.Text

variable {α : Type}

-- One text cut at two of its separators: both cuts are the same, or one part holds the other cut.
theorem join_eq_iff (separator : α) (a b c d : List α) :
    a ++ separator :: b = c ++ separator :: d ↔
      (a = c ∧ b = d) ∨ (∃ part, a = c ++ separator :: part ∧ d = part ++ separator :: b) ∨
        ∃ part, c = a ++ separator :: part ∧ b = part ++ separator :: d := by
  constructor
  · intro same
    rcases List.append_eq_append_iff.1 same with ⟨rest, left, right⟩ | ⟨rest, left, right⟩
    · cases rest with
      | nil => exact .inl ⟨by simpa using left.symm, (List.cons.inj right).2⟩
      | cons x rest =>
          cases right
          exact .inr (.inr ⟨rest, left, rfl⟩)
    · cases rest with
      | nil => exact .inl ⟨by simpa using left, (List.cons.inj right).2.symm⟩
      | cons x rest =>
          cases right
          exact .inr (.inl ⟨rest, left, rfl⟩)
  · rintro (⟨rfl, rfl⟩ | ⟨part, rfl, rfl⟩ | ⟨part, rfl, rfl⟩)
    · rfl
    · rw [List.append_assoc, List.cons_append]
    · rw [List.append_assoc, List.cons_append]

theorem split_at_last (separator : α) (a b c d : List α) (after : separator ∉ b)
    (other : separator ∉ d) (same : a ++ separator :: b = c ++ separator :: d) :
    a = c ∧ b = d := by
  rcases (join_eq_iff separator a b c d).1 same with whole | ⟨_, _, back⟩ | ⟨_, _, back⟩
  · exact whole
  · exact absurd (back ▸ by simp) other
  · exact absurd (back ▸ by simp) after

section

variable {p : α → Bool} (a b : List α) (front : ∀ c ∈ a, p c = true)
  (back : ∀ c ∈ b.head?, p c = false)

include front back

theorem take_while_until : (a ++ b).takeWhile p = a := by
  rw [List.takeWhile_append_of_pos front]
  cases b with
  | nil => simp
  | cons c b => simp [back c rfl]

theorem drop_while_until : (a ++ b).dropWhile p = b := by
  rw [List.dropWhile_append_of_pos front]
  cases b with
  | nil => rfl
  | cons c b => simp [back c rfl]

end

theorem drop_around {p : α → Bool} (front s back : List α) (before : ∀ c ∈ front, p c = true)
    (behind : ∀ c ∈ back, p c = true) :
    ((front ++ s ++ back).dropWhile p).reverse.dropWhile p =
      (s.dropWhile p).reverse.dropWhile p := by
  rw [List.append_assoc, List.dropWhile_append_of_pos before, List.dropWhile_append]
  split
  · rename_i hidden
    have nothing : back.dropWhile p = [] := by
      rw [← List.append_nil back, List.dropWhile_append_of_pos behind]
      rfl
    rw [List.isEmpty_iff.1 hidden, nothing]
  · rw [List.reverse_append, List.dropWhile_append_of_pos]
    exact fun c inside => behind c (List.mem_reverse.1 inside)

theorem mapM_eq_some {β : Type} (read? : α → Option β) (parts : List α) (found : List β) :
    parts.mapM read? = some found ↔
      List.Forall₂ (fun part a => read? part = some a) parts found := by
  induction parts generalizing found with
  | nil => simp [eq_comm]
  | cons part rest ih =>
      simp only [List.mapM_cons, Option.bind_eq_bind, Option.bind_eq_some_iff, Option.pure_def,
        Option.some.injEq, ih, List.forall₂_cons_left_iff]
      grind

theorem mem_intercalate (separator c : α) (parts : List (List α))
    (inside : c ∈ [separator].intercalate parts) : c = separator ∨ ∃ part ∈ parts, c ∈ part := by
  induction parts with
  | nil => cases inside
  | cons part parts ih =>
      cases parts with
      | nil =>
          rw [List.intercalate_singleton] at inside
          exact .inr ⟨part, List.mem_cons_self, inside⟩
      | cons next rest =>
          rw [List.intercalate_cons_cons, List.mem_append, List.mem_append, List.mem_singleton]
            at inside
          rcases inside with (inside | same) | inside
          · exact .inr ⟨part, List.mem_cons_self, inside⟩
          · exact .inl same
          · rcases ih inside with same | ⟨other, there, inside⟩
            · exact .inl same
            · exact .inr ⟨other, List.mem_cons_of_mem part there, inside⟩

end ServiceDiscovery.Text
