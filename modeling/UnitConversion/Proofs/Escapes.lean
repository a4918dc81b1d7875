import Mathlib.Data.List.Basic
import Mathlib.Data.List.Induction
import UnitConversion.Line

/-!
# Escapes in a text

A backslash takes the meaning from the character behind it, unless its own meaning is taken away.
So the characters right before a position settle whether the character there has a meaning: it has
none exactly behind an odd number of backslashes. These notions look at positions only, not at how a
text is read from one end to the other.
-/

namespace UnitConversion.Line

/-- An odd number of backslashes stands at the end of the text. A character behind it has no meaning
of its own. -/
def endsInEscape (text : List Char) : Bool :=
  (text.reverse.takeWhile (· == escape)).length % 2 == 1

/-- The meaning of the character at the position is taken away. -/
def isEscaped (text : List Char) (position : Nat) : Bool := endsInEscape (text.take position)

/-- The character at the position is a backslash that takes the meaning from the next character. -/
def isEscape (text : List Char) (position : Nat) : Bool :=
  text[position]? == some escape && !isEscaped text position

/-- The positions between two others whose characters stay: all of them, or all but those of the
backslashes that take a meaning away. -/
def keptBetween (keepEscapes : Bool) (text : List Char) (start stop : Nat) : List Nat :=
  (List.range' start (stop - start)).filter fun position => keepEscapes || !isEscape text position

/-- The characters between two positions, with the backslashes that take a meaning away or without
them. -/
def textBetween (keepEscapes : Bool) (text : List Char) (start stop : Nat) : List Char :=
  (keptBetween keepEscapes text start stop).filterMap fun position => text[position]?

/-- A text ends in an escape when it ends with a backslash that has its meaning. -/
theorem endsInEscape_concat (text : List Char) (c : Char) :
    endsInEscape (text ++ [c]) = (c == escape && !endsInEscape text) := by
  unfold endsInEscape
  rw [List.reverse_append, List.reverse_singleton, List.singleton_append, List.takeWhile_cons]
  cases hc : c == escape with
  | false => simp
  | true =>
    rw [if_pos rfl, List.length_cons, Bool.true_and, Bool.eq_iff_iff]
    simp only [beq_iff_eq, Bool.not_eq_true', beq_eq_false_iff_ne]
    omega

/-- Behind a text that does not end in an escape, what follows ends in one as it does alone. -/
theorem endsInEscape_append {before : List Char} (h : endsInEscape before = false)
    (text : List Char) : endsInEscape (before ++ text) = endsInEscape text := by
  induction text using List.reverseRecOn with
  | nil => rw [List.append_nil, h, endsInEscape, List.reverse_nil, List.takeWhile_nil]; rfl
  | append_singleton text c ih =>
    rw [← List.append_assoc, endsInEscape_concat, endsInEscape_concat, ih]

/-- Behind a text that does not end in an escape, the same characters have their meaning as without
it. -/
theorem isEscaped_append {before : List Char} (h : endsInEscape before = false)
    (text : List Char) (position : Nat) :
    isEscaped (before ++ text) (before.length + position) = isEscaped text position := by
  rw [isEscaped, List.take_length_add_append, endsInEscape_append h, isEscaped]

/-- A backslash and the character behind it do not end in an escape. -/
theorem endsInEscape_pair (c : Char) : endsInEscape [escape, c] = false := by
  rw [show [escape, c] = [escape] ++ [c] from rfl, endsInEscape_concat]
  simp [endsInEscape]

/-- A character that is no backslash does not end in an escape. -/
theorem endsInEscape_singleton {c : Char} (h : c ≠ escape) : endsInEscape [c] = false := by
  simp [endsInEscape, h]

variable {text : List Char} {position start stop : Nat} {c : Char}

/-- The first character has its meaning. -/
@[simp]
theorem isEscaped_zero (text : List Char) : isEscaped text 0 = false := rfl

/-- Behind the whole text a character has its meaning unless the text ends in an escape. -/
theorem isEscaped_length (text : List Char) : isEscaped text text.length = endsInEscape text := by
  rw [isEscaped, List.take_length]

/-- The first character of what is left from a position on stands at that position. -/
theorem getElem?_of_drop {rest : List Char} (h : text.drop position = c :: rest) :
    text[position]? = some c ∧ text.drop (position + 1) = rest := by
  have hfirst := congrArg (·[0]?) h
  have hlater := congrArg List.tail h
  simp only [List.getElem?_drop, Nat.add_zero, List.getElem?_cons_zero] at hfirst
  rw [List.tail_drop, List.tail_cons] at hlater
  exact ⟨hfirst, hlater⟩

/-- A character has no meaning behind a backslash that has its own, and only there. -/
theorem isEscaped_succ (h : text[position]? = some c) :
    isEscaped text (position + 1) = (c == escape && !isEscaped text position) := by
  unfold isEscaped
  rw [List.take_add_one, h]
  exact endsInEscape_concat _ _

/-- The character at a position in the text takes the meaning from the next one when that one has
none. -/
theorem isEscape_eq (h : text[position]? = some c) :
    isEscape text position = isEscaped text (position + 1) := by
  rw [isEscaped_succ h, isEscape, h]
  rfl

/-- Behind the second position nothing stands between the two. -/
theorem textBetween_of_le (keepEscapes : Bool) (text : List Char) (hle : stop ≤ start) :
    textBetween keepEscapes text start stop = [] := by
  have hzero : stop - start = 0 := by omega
  simp [textBetween, keptBetween, hzero]

/-- Between a position and itself nothing stands. -/
@[simp]
theorem textBetween_self (keepEscapes : Bool) (text : List Char) (start : Nat) :
    textBetween keepEscapes text start start = [] :=
  textBetween_of_le keepEscapes text (Nat.le_refl start)

/-- Further up there is one character more, unless it is a backslash that is left out. -/
theorem textBetween_succ (keepEscapes : Bool) (h : text[stop]? = some c) (hle : start ≤ stop) :
    textBetween keepEscapes text start (stop + 1) =
      textBetween keepEscapes text start stop ++
        if keepEscapes || !isEscape text stop then [c] else [] := by
  have hlength : stop + 1 - start = stop - start + 1 := by omega
  have hlast : start + (stop - start) = stop := by omega
  unfold textBetween keptBetween
  rw [hlength, List.range'_1_concat, hlast, List.filter_append, List.filterMap_append]
  congr 1
  rw [List.filter_singleton]
  cases keepEscapes || !isEscape text stop <;> simp [h]

/-- From the front, one character comes first, unless it is a backslash that is left out. -/
theorem textBetween_cons (keepEscapes : Bool) (h : text[start]? = some c) (hlt : start < stop) :
    textBetween keepEscapes text start stop =
      (if keepEscapes || !isEscape text start then [c] else []) ++
        textBetween keepEscapes text (start + 1) stop := by
  have hlength : stop - start = stop - (start + 1) + 1 := by omega
  unfold textBetween keptBetween
  rw [hlength, List.range'_succ, ← List.singleton_append, List.filter_append,
    List.filterMap_append]
  congr 1
  rw [List.filter_singleton]
  cases keepEscapes || !isEscape text start <;> simp [h]

/-- With all backslashes this is the piece of the text between the positions. -/
theorem textBetween_true (text : List Char) (start stop : Nat) :
    textBetween true text start stop = (text.drop start).take (stop - start) := by
  have hkept : keptBetween true text start stop = List.range' start (stop - start) := by
    simp [keptBetween]
  unfold textBetween
  rw [hkept]
  generalize stop - start = count
  induction count with
  | zero => simp
  | succ count ih =>
    rw [List.range'_1_concat, List.filterMap_append, ih, List.take_add_one, List.getElem?_drop]
    cases hfound : text[start + count]? <;> simp [hfound]

/-- There are as many characters as positions, up to the end of the text. -/
theorem length_textBetween_true (hle : stop ≤ text.length) :
    (textBetween true text start stop).length = stop - start := by
  rw [textBetween_true, List.length_take, List.length_drop]
  omega

section Agreement

variable {other : List Char} {count : Nat}

/-- Texts that begin alike have the same characters there. -/
theorem getElem?_of_take_eq (h : other.take count = text.take count) (hlt : position < count) :
    other[position]? = text[position]? := by
  have hsame := congrArg (·[position]?) h
  simpa [List.getElem?_take, hlt] using hsame

/-- The characters before a position settle whether the one there has a meaning. -/
theorem isEscaped_of_take_eq (h : other.take count = text.take count) (hle : position ≤ count) :
    isEscaped other position = isEscaped text position := by
  have hsame := congrArg (List.take position) h
  rw [List.take_take, List.take_take, Nat.min_eq_left hle] at hsame
  rw [isEscaped, isEscaped, hsame]

/-- What stands between positions is settled by the text up to the second one. -/
theorem textBetween_of_take_eq (keepEscapes : Bool) (h : other.take count = text.take count)
    (start : Nat) (hle : stop ≤ count) :
    textBetween keepEscapes other start stop = textBetween keepEscapes text start stop := by
  have hin : ∀ position ∈ List.range' start (stop - start), position < count := by
    intro position hposition
    rw [List.mem_range'_1] at hposition
    omega
  have hkept : keptBetween keepEscapes other start stop = keptBetween keepEscapes text start stop :=
    List.filter_congr fun position hposition => by
      have hlt := hin position hposition
      rw [isEscape, isEscape, getElem?_of_take_eq h hlt, isEscaped_of_take_eq h (Nat.le_of_lt hlt)]
  unfold textBetween
  rw [hkept]
  apply List.filterMap_congr
  intro position hposition
  exact getElem?_of_take_eq h (hin position (List.mem_of_mem_filter hposition))

end Agreement

end UnitConversion.Line
