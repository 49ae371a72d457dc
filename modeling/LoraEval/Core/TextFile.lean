import Mathlib.Data.List.Basic

namespace LoraEval.Core

def universalNewlines : List Char → List Char
  | [] => []
  | '\r' :: '\n' :: rest => '\n' :: universalNewlines rest
  | '\r' :: rest => '\n' :: universalNewlines rest
  | char :: rest => char :: universalNewlines rest

/-- The lines of a text; the last one may lack its line feed. -/
def textLines : List Char → List (List Char)
  | [] => []
  | char :: rest =>
    if char = '\n' then [char] :: textLines rest
    else match textLines rest with
      | [] => [[char]]
      | line :: others => (char :: line) :: others

/-- Universal newlines leave a beginning without carriage returns as it is. -/
theorem universalNewlines_append (plain : '\r' ∉ front) (back : List Char) :
    universalNewlines (front ++ back) = front ++ universalNewlines back := by
  induction front with
  | nil => rfl
  | cons char rest ih =>
    obtain ⟨different, others⟩ := List.ne_and_not_mem_of_not_mem_cons plain
    rw [List.cons_append, universalNewlines, ih others, List.cons_append]
    · rintro _ rfl
      exact absurd rfl different
    · rintro rfl
      exact absurd rfl different

theorem universalNewlines_of_plain (plain : '\r' ∉ text) : universalNewlines text = text := by
  have whole := universalNewlines_append plain []
  simpa [universalNewlines] using whole

theorem not_mem_universalNewlines (text : List Char) : '\r' ∉ universalNewlines text := by
  fun_induction universalNewlines text with
  | case1 => exact List.not_mem_nil
  | case2 rest ih => exact List.not_mem_cons_of_ne_of_not_mem (by decide) ih
  | case3 rest _ ih => exact List.not_mem_cons_of_ne_of_not_mem (by decide) ih
  | case4 char rest _ different ih =>
    exact List.not_mem_cons_of_ne_of_not_mem (fun same => different same.symm) ih

theorem mem_getLast?_cons {items : List α} : last ∈ (first :: items).getLast? ↔
    items = [] ∧ last = first ∨ last ∈ items.getLast? := by
  cases items with
  | nil => simp [eq_comm]
  | cons => simp

theorem universalNewlines_eq_nil (none : universalNewlines text = []) : text = [] := by
  fun_cases universalNewlines text with
  | case1 => rfl
  | case2 | case3 | case4 => simp_all [universalNewlines]

theorem universalNewlines_last (ends : ∀ last ∈ text.getLast?, last = '\n') :
    ∀ last ∈ (universalNewlines text).getLast?, last = '\n' := by
  fun_induction universalNewlines text with
  | case1 => simp
  | case2 rest ih =>
    intro last member
    rcases mem_getLast?_cons.mp member with ⟨-, same⟩ | later
    · exact same
    · exact ih (fun other found => ends other
        (mem_getLast?_cons.mpr (.inr (mem_getLast?_cons.mpr (.inr found)))))
        last later
  | case3 rest _ ih =>
    intro last member
    rcases mem_getLast?_cons.mp member with ⟨-, same⟩ | later
    · exact same
    · exact ih (fun other found => ends other (mem_getLast?_cons.mpr (.inr found))) last later
  | case4 char rest _ _ ih =>
    intro last member
    rcases mem_getLast?_cons.mp member with ⟨none, same⟩ | later
    · exact ends last (mem_getLast?_cons.mpr (.inl ⟨universalNewlines_eq_nil none, same⟩))
    · exact ih (fun other found => ends other (mem_getLast?_cons.mpr (.inr found))) last later

theorem textLines_line (body : List Char) (plain : '\n' ∉ body) (rest : List Char) :
    textLines (body ++ '\n' :: rest) = (body ++ ['\n']) :: textLines rest := by
  induction body with
  | nil => simp [textLines]
  | cons char body ih =>
    obtain ⟨different, others⟩ := List.ne_and_not_mem_of_not_mem_cons plain
    rw [List.cons_append, textLines, if_neg (Ne.symm different), ih others]
    rfl

theorem textLines_ne_nil (some : text ≠ []) : textLines text ≠ [] := by
  cases text with
  | nil => exact absurd rfl some
  | cons char rest =>
    rw [textLines]
    split
    · exact List.cons_ne_nil _ _
    · split <;> exact List.cons_ne_nil _ _

theorem textLines_flatMap {lines : List (List Char)} (plain : ∀ line ∈ lines, '\n' ∉ line) :
    textLines (lines.flatMap (· ++ ['\n'])) = lines.map (· ++ ['\n']) := by
  induction lines with
  | nil => rfl
  | cons line lines ih =>
    rw [List.flatMap_cons, List.append_assoc, List.singleton_append,
      textLines_line line (plain line List.mem_cons_self),
      ih fun other member => plain other (List.mem_cons_of_mem _ member), List.map_cons]

theorem textLines_body (member : line ∈ textLines text) :
    ∃ body, '\n' ∉ body ∧ (line = body ∨ line = body ++ ['\n']) := by
  induction text generalizing line with
  | nil => simp [textLines] at member
  | cons char text ih =>
    rw [textLines] at member
    split at member
    · rename_i newline
      rcases List.mem_cons.mp member with rfl | later
      · exact ⟨[], List.not_mem_nil, .inr (by rw [newline]; rfl)⟩
      · exact ih later
    · rename_i other
      have extend {body : List Char} (plain : '\n' ∉ body) : '\n' ∉ char :: body :=
        List.not_mem_cons_of_ne_of_not_mem (Ne.symm other) plain
      split at member
      · rw [List.mem_singleton.mp member]
        exact ⟨[char], extend List.not_mem_nil, .inl rfl⟩
      · rename_i first others shape
        rcases List.mem_cons.mp member with rfl | later
        · obtain ⟨body, plain, same⟩ := ih (shape ▸ List.mem_cons_self)
          exact ⟨char :: body, extend plain, same.imp (congrArg (char :: ·)) (congrArg (char :: ·))⟩
        · exact ih (shape ▸ List.mem_cons_of_mem _ later)

theorem mem_of_mem_textLines (member : line ∈ textLines text) (found : char ∈ line) : char ∈ text := by
  induction text generalizing line with
  | nil => simp [textLines] at member
  | cons first text ih =>
    rw [textLines] at member
    split at member
    · rcases List.mem_cons.mp member with rfl | later
      · exact List.mem_cons.mpr (.inl (List.mem_singleton.mp found))
      · exact List.mem_cons_of_mem _ (ih later found)
    · split at member
      · rw [List.mem_singleton.mp member] at found
        exact List.mem_cons.mpr (.inl (List.mem_singleton.mp found))
      · rename_i line' others shape
        rcases List.mem_cons.mp member with rfl | later
        · rcases List.mem_cons.mp found with same | rest
          · exact List.mem_cons.mpr (.inl same)
          · exact List.mem_cons_of_mem _ (ih (shape ▸ List.mem_cons_self) rest)
        · exact List.mem_cons_of_mem _ (ih (shape ▸ List.mem_cons_of_mem _ later) found)

/-- A line without the line feeds around it, `strip('\n')`. -/
def stripNewlines (line : List Char) : List Char :=
  ((line.dropWhile (· = '\n')).reverse.dropWhile (· = '\n')).reverse

theorem dropWhile_newline {body : List Char} (plain : '\n' ∉ body) : body.dropWhile (· = '\n') = body := by
  cases body with
  | nil => rfl
  | cons first rest =>
    have other : first ≠ '\n' := fun same => plain (by simp [same])
    simp [List.dropWhile, other]

theorem stripNewlines_body {body : List Char} (plain : '\n' ∉ body) :
    stripNewlines body = body ∧ stripNewlines (body ++ ['\n']) = body := by
  have reversed : '\n' ∉ body.reverse := by simpa using plain
  constructor
  · rw [stripNewlines, dropWhile_newline plain, dropWhile_newline reversed, List.reverse_reverse]
  · cases body with
    | nil => rfl
    | cons first rest =>
      have other : first ≠ '\n' := fun same => plain (by simp [same])
      rw [stripNewlines, List.cons_append, List.dropWhile_cons_of_neg (by simpa using other),
        ← List.cons_append, List.reverse_append, List.reverse_singleton, List.singleton_append,
        List.dropWhile_cons_of_pos (by simp), dropWhile_newline reversed, List.reverse_reverse]

theorem stripNewlines_line (member : line ∈ textLines text) : '\n' ∉ stripNewlines line := by
  obtain ⟨body, plain, rfl | rfl⟩ := textLines_body member
  · rw [(stripNewlines_body plain).1]
    exact plain
  · rw [(stripNewlines_body plain).2]
    exact plain

theorem mem_of_mem_stripNewlines (member : char ∈ stripNewlines line) : char ∈ line := by
  rw [stripNewlines, List.mem_reverse] at member
  have reversed := (List.dropWhile_sublist _).subset member
  rw [List.mem_reverse] at reversed
  exact (List.dropWhile_sublist _).subset reversed

end LoraEval.Core
