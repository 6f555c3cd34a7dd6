import Mathlib.Data.List.Basic

/-!
# Go's `strings.Split` on one-character separators

Both callers in the sources split on a one-character separator: the chat code takes the
part of an intent id before its first `-`, and the domain code splits a host name into its
labels on `.`. For such a separator `strings.Split(s, sep)` returns the pieces of `s`
between the occurrences of `sep`, which is `List.splitOn` on the characters of `s`.
-/

namespace CodeServer.Go

/-- `strings.Split(s, string(sep))`: the pieces of `s` between the occurrences of `sep`. -/
def split (s : String) (sep : Char) : List String :=
  (s.data.splitOn sep).map String.mk

/-- `strings.Split` never returns an empty slice, so `[0]` cannot panic. -/
theorem split_ne_nil (s : String) (sep : Char) : split s sep ≠ [] := by
  simpa [split] using List.splitOnP_ne_nil (· == sep) s.data

/-- The first piece is everything before the first separator. -/
theorem head?_splitOn (sep : Char) : ∀ text : List Char,
    (text.splitOn sep).head? = some (text.takeWhile (· != sep))
  | [] => rfl
  | c :: rest => by
    have shorter := head?_splitOn sep rest
    simp only [List.splitOn, List.splitOnP_cons, List.takeWhile_cons] at shorter ⊢
    by_cases here : c = sep
    · simp [here]
    · cases pieces : rest.splitOnP (· == sep) with
      | nil => exact absurd pieces (List.splitOnP_ne_nil _ rest)
      | cons head tail => simp_all

/-- `strings.Split(s, sep)[0]` is the part of `s` before the first `sep`, all of `s` when
there is none. -/
theorem head_split (s : String) (sep : Char) :
    (split s sep).head (split_ne_nil s sep) = ⟨s.data.takeWhile (· != sep)⟩ := by
  have first : (split s sep).head? = some ⟨s.data.takeWhile (· != sep)⟩ := by
    simp [split, head?_splitOn]
  exact Option.some.inj ((List.head?_eq_head _).symm.trans first)

/-- No piece holds the separator. -/
theorem sep_not_mem_splitOn {sep : Char} :
    ∀ {text piece : List Char}, piece ∈ text.splitOn sep → sep ∉ piece
  | [], piece, member => by simp_all [List.splitOn_nil]
  | first :: rest, piece, member => by
    have later : ∀ piece ∈ rest.splitOn sep, sep ∉ piece := fun _ found =>
      sep_not_mem_splitOn found
    simp only [List.splitOn, List.splitOnP_cons] at member later
    split at member
    · rcases List.mem_cons.mp member with rfl | found
      · exact List.not_mem_nil sep
      · exact later piece found
    · rename_i notSep
      have other : first ≠ sep := by simpa using notSep
      cases pieces : rest.splitOnP (· == sep) with
      | nil => exact absurd pieces (List.splitOnP_ne_nil _ rest)
      | cons head tail =>
        simp only [pieces, List.modifyHead_cons, List.mem_cons] at member later
        rcases member with rfl | found
        · simpa [Ne.symm other] using later head (.inl rfl)
        · exact later piece (.inr found)

theorem sep_not_mem_split {s : String} {sep : Char} {piece : String}
    (member : piece ∈ split s sep) : sep ∉ piece.data := by
  obtain ⟨text, found, rfl⟩ := List.mem_map.mp member
  exact sep_not_mem_splitOn found

/-- Joining the pieces with the separator gives back the string. -/
theorem intercalate_split (s : String) (sep : Char) :
    [sep].intercalate ((split s sep).map String.data) = s.data := by
  simpa [split, List.map_map, Function.comp_def] using
    (List.intercalate_splitOn s.data sep : [sep].intercalate (s.data.splitOn sep) = s.data)

/-- Two pieces free of the separator, joined by it, split back into themselves. -/
theorem split_pair {sep : Char} {head tail : List Char} (headFree : sep ∉ head)
    (tailFree : sep ∉ tail) : split ⟨head ++ sep :: tail⟩ sep = [⟨head⟩, ⟨tail⟩] := by
  have pieces := List.splitOn_intercalate [head, tail] sep
    (by simp [headFree, tailFree]) (by simp)
  simp only [List.intercalate, List.intersperse_cons₂, List.intersperse_single,
    List.flatten_cons, List.flatten_nil, List.append_nil, List.singleton_append] at pieces
  simp [split, pieces]

/-- Appending a last piece to a non-empty list of pieces appends the separator and it. -/
theorem intercalate_append_single {sep : Char} {pieces : List (List Char)} (last : List Char)
    (nonempty : pieces ≠ []) :
    [sep].intercalate (pieces ++ [last]) = [sep].intercalate pieces ++ sep :: last := by
  induction pieces with
  | nil => exact absurd rfl nonempty
  | cons first rest inductionHypothesis =>
    cases rest with
    | nil => simp [List.intercalate]
    | cons second rest =>
      have shorter := inductionHypothesis (List.cons_ne_nil _ _)
      simp only [List.intercalate, List.cons_append, List.intersperse_cons₂,
        List.flatten_cons] at shorter ⊢
      rw [shorter]
      simp

end CodeServer.Go
