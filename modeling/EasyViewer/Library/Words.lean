import Mathlib.Data.List.Basic
import Mathlib.Data.List.Induction

/-!
The words of a line: what stands between its blanks. Blanks in a row, and at the ends, hold no
word between them.
-/

namespace Words

variable {α : Type} [DecidableEq α] {blank : α} {word piece : List α}

def keep (word : List α) : List (List α) := if word = [] then [] else [word]

/-- `word` is what the line has begun with. -/
def words (blank : α) (word : List α) : List α → List (List α)
  | [] => keep word
  | ch :: rest =>
      if ch = blank then keep word ++ words blank [] rest
      else words blank (word ++ [ch]) rest

def line (blank : α) (entered : List (List α)) : List α := entered.flatMap (· ++ [blank])

theorem words_split (rest : List α) :
    words blank word (piece ++ blank :: rest) = words blank word piece ++ words blank [] rest := by
  induction piece generalizing word with
  | nil =>
      rw [List.nil_append, words.eq_2, if_pos rfl]
      rfl
  | cons ch piece ih =>
      rw [List.cons_append, words, words]
      split
      · rw [ih, List.append_assoc]
      · exact ih

theorem words_unbroken (unbroken : blank ∉ piece) :
    words blank word piece = keep (word ++ piece) := by
  induction piece generalizing word with
  | nil => rw [words, List.append_nil]
  | cons ch piece ih =>
      rw [List.mem_cons, not_or] at unbroken
      rw [words, if_neg (Ne.symm unbroken.1), ih unbroken.2, List.append_assoc,
        List.singleton_append]

theorem words_append (rest : List α) (unbroken : blank ∉ piece) :
    words blank word (piece ++ blank :: rest) = keep (word ++ piece) ++ words blank [] rest := by
  rw [words_split, words_unbroken unbroken]

theorem words_led {entered : List (List α)}
    (unbroken : ∀ word ∈ entered, word ≠ [] ∧ blank ∉ word) :
    words blank [] (entered.flatMap (blank :: ·)) = entered := by
  induction entered using List.reverseRec with
  | nil => rfl
  | append_singleton entered word ih =>
      have last := unbroken word (List.mem_append_right _ List.mem_cons_self)
      rw [List.flatMap_append, List.flatMap_singleton, words_split, words_unbroken last.2,
        List.nil_append, keep, if_neg last.1,
        ih fun other member => unbroken other (List.mem_append_left _ member)]

/-- Words without blanks are read as they were entered. -/
theorem words_line {entered : List (List α)}
    (unbroken : ∀ word ∈ entered, word ≠ [] ∧ blank ∉ word) :
    words blank [] (line blank entered) = entered := by
  induction entered with
  | nil => rfl
  | cons word entered ih =>
      have first := unbroken word List.mem_cons_self
      have split : line blank (word :: entered) = word ++ blank :: line blank entered := by
        rw [line, List.flatMap_cons, List.append_assoc, List.singleton_append, line]
      rw [split, words_append _ first.2, List.nil_append, keep, if_neg first.1,
        ih fun other member => unbroken other (List.mem_cons_of_mem _ member),
        List.singleton_append]

theorem mem_words {rest found : List α} (begun : blank ∉ word)
    (member : found ∈ words blank word rest) :
    found ≠ [] ∧ ∀ ch ∈ found, ch ≠ blank ∧ (ch ∈ word ∨ ch ∈ rest) := by
  have kept {word : List α} (begun : blank ∉ word) (member : found ∈ keep word) :
      found ≠ [] ∧ ∀ ch ∈ found, ch ≠ blank ∧ ch ∈ word := by
    rw [keep] at member
    split at member
    · contradiction
    · rename_i nonempty
      obtain rfl := List.mem_singleton.mp member
      exact ⟨nonempty, fun ch among => ⟨fun same => begun (same ▸ among), among⟩⟩
  induction rest generalizing word with
  | nil =>
      obtain ⟨nonempty, own⟩ := kept begun member
      exact ⟨nonempty, fun ch among => (own ch among).imp_right .inl⟩
  | cons ch rest ih =>
      rw [words] at member
      split at member
      · rcases List.mem_append.mp member with here | later
        · obtain ⟨nonempty, own⟩ := kept begun here
          exact ⟨nonempty, fun ch among => (own ch among).imp_right .inl⟩
        · obtain ⟨nonempty, own⟩ := ih List.not_mem_nil later
          refine ⟨nonempty, fun other among => (own other among).imp_right fun place => ?_⟩
          exact .inr (List.mem_cons_of_mem _ (place.resolve_left List.not_mem_nil))
      · rename_i different
        have begunNext : blank ∉ word ++ [ch] := by
          rw [List.mem_append, List.mem_singleton, not_or]
          exact ⟨begun, Ne.symm different⟩
        obtain ⟨nonempty, own⟩ := ih begunNext member
        refine ⟨nonempty, fun other among => (own other among).imp_right fun place => ?_⟩
        rcases place with before | after
        · rcases List.mem_append.mp before with earlier | last
          · exact .inl earlier
          · exact .inr (List.mem_singleton.mp last ▸ List.mem_cons_self)
        · exact .inr (List.mem_cons_of_mem _ after)

end Words
