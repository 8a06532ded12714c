import Mathlib.Data.List.DropRight
import Mathlib.Data.List.TakeWhile
import ThemeCascade.Text.Basic

/-! # Runs of characters

A run goes on until a character, or to the end of the text. Trimming takes off the runs of blanks at
both ends, and a text that has none is left as it is. -/

namespace ThemeCascade.Text

/-! ## Runs without a character -/

theorem takeWhile_ne_append {c : Char} {run rest : Text} (hrun : c ∉ run)
    (hrest : ∀ d ∈ rest.head?, d = c) : (run ++ rest).takeWhile (· ≠ c) = run := by
  have hall : ∀ d ∈ run, decide (d ≠ c) = true := by
    intro d hd
    simpa using ne_of_mem_of_not_mem hd hrun
  rw [List.takeWhile_append_of_pos hall]
  cases rest with
  | nil => simp
  | cons d rest => simp [hrest d (by simp)]

theorem dropWhile_ne_append {c : Char} {run rest : Text} (hrun : c ∉ run)
    (hrest : ∀ d ∈ rest.head?, d = c) : (run ++ rest).dropWhile (· ≠ c) = rest := by
  have happend := List.takeWhile_append_dropWhile (p := (· ≠ c)) (l := run ++ rest)
  rw [takeWhile_ne_append hrun hrest] at happend
  exact List.append_cancel_left happend

theorem not_mem_takeWhile_ne (c : Char) (t : Text) : c ∉ t.takeWhile (· ≠ c) := by
  intro hmem
  simpa using List.mem_takeWhile_imp hmem

theorem head_dropWhile_ne {c d : Char} {t : Text} (h : d ∈ (t.dropWhile (· ≠ c)).head?) : d = c := by
  have hhead := List.head?_dropWhile_not (· ≠ c) t
  rw [Option.mem_def.mp h] at hhead
  simpa using hhead

/-! ## Runs of blanks -/

/-- Neither the first nor the last character is a blank. -/
structure IsTrimmed (t : Text) : Prop where
  head : ∀ c ∈ t.head?, isBlank c = false
  last : ∀ c ∈ t.getLast?, isBlank c = false

instance (t : Text) : Decidable (IsTrimmed t) :=
  have : Decidable (∀ c ∈ t.head?, isBlank c = false) := Option.decidableForallMem _
  have : Decidable (∀ c ∈ t.getLast?, isBlank c = false) := Option.decidableForallMem _
  decidable_of_iff ((∀ c ∈ t.head?, isBlank c = false) ∧ ∀ c ∈ t.getLast?, isBlank c = false)
    ⟨fun h => ⟨h.1, h.2⟩, fun h => ⟨h.head, h.last⟩⟩

variable {t : Text}

/-- The character behind it is the last one, and the first one only if there is no other. -/
theorem isTrimmed_concat {c : Char} (hhead : ∀ d ∈ t.head?, isBlank d = false) (hc : isBlank c = false) :
    (t ++ [c]).IsTrimmed where
  head := by
    cases t with
    | nil => simpa using hc
    | cons d t => simpa using hhead
  last := by simpa using hc

theorem trimStart_eq_self (h : ∀ c ∈ t.head?, isBlank c = false) : t.trimStart = t := by
  cases t with
  | nil => rfl
  | cons c t => simp [trimStart, h c (by simp)]

theorem trimEnd_eq_reverse (t : Text) : t.trimEnd = (trimStart t.reverse).reverse := rfl

theorem trimEnd_eq_self (h : ∀ c ∈ t.getLast?, isBlank c = false) : t.trimEnd = t := by
  have hhead : ∀ c ∈ t.reverse.head?, isBlank c = false := by simpa using h
  rw [trimEnd_eq_reverse, trimStart_eq_self hhead, List.reverse_reverse]

theorem IsTrimmed.trim_eq (h : t.IsTrimmed) : t.trim = t := by
  rw [trim, trimStart_eq_self h.head, trimEnd_eq_self h.last]

theorem head_trimStart (t : Text) : ∀ c ∈ t.trimStart.head?, isBlank c = false := by
  intro c hc
  have hhead := List.head?_dropWhile_not isBlank t
  rw [show (t.dropWhile isBlank).head? = some c from hc] at hhead
  exact hhead

theorem last_trimEnd (t : Text) : ∀ c ∈ t.trimEnd.getLast?, isBlank c = false := by
  intro c hc
  rw [trimEnd_eq_reverse, List.getLast?_reverse] at hc
  exact head_trimStart t.reverse c hc

theorem isTrimmed_trim (t : Text) : t.trim.IsTrimmed := by
  refine ⟨?_, last_trimEnd _⟩
  intro c hc
  have hprefix : t.trim <+: t.trimStart := List.rdropWhile_prefix isBlank t.trimStart
  refine head_trimStart t c ?_
  obtain ⟨rest, hrest⟩ := hprefix
  rw [← hrest, List.head?_append, Option.mem_def.mp hc]
  rfl

theorem trimEnd_cons {c : Char} (h : isBlank c = false) (t : Text) : trimEnd (c :: t) = c :: t.trimEnd := by
  rw [trimEnd_eq_reverse, trimEnd_eq_reverse, List.reverse_cons, trimStart, List.dropWhile_append]
  split
  · next hblank => simp [trimStart, List.isEmpty_iff.mp hblank, h]
  · simp [trimStart]

/-! ## Blanks around a text -/

variable {blanks : Text}

theorem trimStart_blanks_append (h : ∀ c ∈ blanks, isBlank c = true) (t : Text) :
    trimStart (blanks ++ t) = t.trimStart := List.dropWhile_append_of_pos h

theorem trimEnd_append_blanks (h : ∀ c ∈ blanks, isBlank c = true) (t : Text) :
    trimEnd (t ++ blanks) = t.trimEnd := by
  have hreverse : ∀ c ∈ blanks.reverse, isBlank c = true := by simpa using h
  rw [trimEnd_eq_reverse, List.reverse_append, trimStart_blanks_append hreverse, trimEnd_eq_reverse]

theorem trim_append_blanks (h : ∀ c ∈ blanks, isBlank c = true) (t : Text) :
    trim (t ++ blanks) = t.trim := by
  rw [trim, trim, trimStart, List.dropWhile_append]
  split
  · next hblank =>
    have hrest : blanks.dropWhile isBlank = [] := List.dropWhile_eq_nil_iff.mpr h
    rw [hrest, trimStart, List.isEmpty_iff.mp hblank]
  · exact trimEnd_append_blanks h _

/-- The text is the core with blanks before and after it, possibly none. -/
def IsPadded (core t : Text) : Prop :=
  ∃ before after : Text, (∀ c ∈ before, isBlank c = true) ∧ (∀ c ∈ after, isBlank c = true) ∧
    t = before ++ core ++ after

theorem isPadded_trim (t : Text) : IsPadded t.trim t := by
  refine ⟨t.takeWhile isBlank, t.trimStart.rtakeWhile isBlank, ?_, ?_, ?_⟩
  · exact fun c hc => List.mem_takeWhile_imp hc
  · exact fun c hc => List.mem_rtakeWhile_imp hc
  · calc t = t.takeWhile isBlank ++ t.trimStart := (List.takeWhile_append_dropWhile ..).symm
      _ = t.takeWhile isBlank ++ (t.trim ++ t.trimStart.rtakeWhile isBlank) := by
          rw [show t.trim = t.trimStart.rdropWhile isBlank from rfl,
            List.rdropWhile_append_rtakeWhile]
      _ = t.takeWhile isBlank ++ t.trim ++ t.trimStart.rtakeWhile isBlank := by
          rw [List.append_assoc]

theorem IsPadded.trim_eq {core : Text} (h : IsPadded core t) : t.trim = core.trim := by
  obtain ⟨before, after, hbefore, hafter, rfl⟩ := h
  rw [trim_append_blanks hafter, trim, trimStart_blanks_append hbefore, trim]

example : trim " a b\u2028".toList = "a b".toList := by decide

end ThemeCascade.Text
