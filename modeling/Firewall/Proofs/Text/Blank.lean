/-
Blanks at the ends of a text.

Trimming takes the blanks at both ends and nothing else.  So blanks that are put around
a text make no difference to what is left (`trim_append_blanks`), and a text with no
blank at its ends is left as it is.
-/
import Firewall.Text.Blank
import Mathlib.Data.List.TakeWhile

namespace Firewall.Text

theorem isBlank_head?_trim {cs : List Char} {c : Char} (h : (trim cs).head? = some c) :
    isBlank c = false := by
  have hfront : (trimStart cs).head? = some c := by
    obtain ⟨rest, hrest⟩ := List.dropWhile_suffix isBlank (l := (trimStart cs).reverse)
    have hstart : trimStart cs = trim cs ++ rest.reverse := by
      rw [← List.reverse_reverse (trimStart cs), ← hrest, List.reverse_append]
      rfl
    rw [hstart, List.head?_append, h, Option.some_or]
  have hdropped := List.head?_dropWhile_not isBlank cs
  rw [show cs.dropWhile isBlank = trimStart cs from rfl, hfront] at hdropped
  exact hdropped

theorem isBlank_getLast?_trim {cs : List Char} {c : Char} (h : (trim cs).getLast? = some c) :
    isBlank c = false := by
  have hdropped := List.head?_dropWhile_not isBlank (trimStart cs).reverse
  rw [trim, trimEnd, List.getLast?_reverse] at h
  rw [h] at hdropped
  exact hdropped

theorem trim_eq_self {cs : List Char} (hfront : ∀ c, cs.head? = some c → isBlank c = false)
    (hend : ∀ c, cs.getLast? = some c → isBlank c = false) : trim cs = cs := by
  have hdrop : ∀ {l : List Char}, (∀ c, l.head? = some c → isBlank c = false) →
      l.dropWhile isBlank = l := by
    intro l hl
    cases l with
    | nil => rfl
    | cons c rest => rw [List.dropWhile_cons_of_neg (by simp [hl c rfl])]
  have hback : ∀ c, cs.reverse.head? = some c → isBlank c = false := by
    intro c hc
    rw [List.head?_reverse] at hc
    exact hend c hc
  rw [trim, trimStart, hdrop hfront, trimEnd, hdrop hback, List.reverse_reverse]

/-- What is dropped in front does not depend on an end that is no blank. -/
theorem trimStart_concat {c : Char} (h : isBlank c = false) (cs : List Char) :
    trimStart (cs ++ [c]) = trimStart cs ++ [c] := by
  unfold trimStart
  rw [List.dropWhile_append]
  split
  · rename_i hempty
    rw [List.isEmpty_iff.1 hempty, List.dropWhile_cons_of_neg (by simp [h]), List.nil_append]
  · rfl

theorem trim_concat {c : Char} (h : isBlank c = false) (cs : List Char) :
    trim (cs ++ [c]) = trimStart cs ++ [c] := by
  rw [trim, trimStart_concat h, trimEnd, List.reverse_append, List.reverse_singleton,
    List.singleton_append, List.dropWhile_cons_of_neg (by simp [h]), List.reverse_cons,
    List.reverse_reverse]

theorem exists_blanks_trim (cs : List Char) : ∃ before after, (∀ c ∈ before, isBlank c = true) ∧
    (∀ c ∈ after, isBlank c = true) ∧ cs = before ++ trim cs ++ after := by
  refine ⟨cs.takeWhile isBlank, ((trimStart cs).reverse.takeWhile isBlank).reverse, ?_, ?_, ?_⟩
  · exact fun c hc => List.mem_takeWhile_imp hc
  · exact fun c hc => List.mem_takeWhile_imp (List.mem_reverse.1 hc)
  · rw [trim, trimEnd, List.append_assoc, ← List.reverse_append, List.takeWhile_append_dropWhile,
      List.reverse_reverse]
    exact List.takeWhile_append_dropWhile.symm

/-- **Blanks around a text make no difference.** -/
theorem trim_append_blanks {before after : List Char} (hbefore : ∀ c ∈ before, isBlank c = true)
    (hafter : ∀ c ∈ after, isBlank c = true) (cs : List Char) :
    trim (before ++ cs ++ after) = trim cs := by
  have hback : ∀ l : List Char, trimEnd (l ++ after) = trimEnd l := by
    intro l
    unfold trimEnd
    rw [List.reverse_append,
      List.dropWhile_append_of_pos fun c hc => hafter c (List.mem_reverse.1 hc)]
  have hfront : trimStart (before ++ cs ++ after) = trimStart (cs ++ after) := by
    rw [List.append_assoc]
    exact List.dropWhile_append_of_pos hbefore
  rw [trim, hfront, trim, ← hback (trimStart cs)]
  unfold trimStart
  rw [List.dropWhile_append]
  split
  · -- nothing but blanks: the ones behind are dropped from the front already
    rename_i hempty
    rw [List.isEmpty_iff.1 hempty, List.dropWhile_eq_nil_iff.2 hafter, List.nil_append]
    exact (hback []).symm
  · rfl

end Firewall.Text
