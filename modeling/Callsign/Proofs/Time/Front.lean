import Callsign.Time.Parse
import Mathlib.Algebra.Group.Nat.Defs

/-!
# Reading what was written

What the readers take of a text that begins with digits, a mark or a name as they are written, whatever comes behind
them. Digits are read to the number that they were written for (`numeral_digits`) and a name of a list to its
place in the list (`name_of_known`); white space is only skipped where the text has some (`Inked`).
-/

namespace Callsign.Time

/-! ### Digits -/

theorem digit_spec (n : Nat) : (digit n).isDigit = true ∧ Text.blanks.mem (digit n) = false ∧
    (digit n).toNat - 48 = n % 10 := by
  have hall : ∀ k < 10, (Char.ofNat (48 + k)).isDigit = true ∧ Text.blanks.mem (Char.ofNat (48 + k)) = false ∧
      (Char.ofNat (48 + k)).toNat - 48 = k := by decide
  exact hall (n % 10) (Nat.mod_lt n (by decide))

theorem length_digits (width n : Nat) : (digits width n).length = width := by
  induction width generalizing n with
  | zero => rfl
  | succ width ih => rw [digits, List.length_append, ih, List.length_singleton]

theorem exists_of_mem_digits {width n : Nat} {c : Char} (h : c ∈ digits width n) : ∃ k, c = digit k := by
  induction width generalizing n with
  | zero => exact absurd h List.not_mem_nil
  | succ width ih =>
    rcases List.mem_append.1 h with h | h
    · exact ih h
    · exact ⟨n, List.mem_singleton.1 h⟩

theorem isDigit_of_mem_digits {width n : Nat} {c : Char} (h : c ∈ digits width n) : c.isDigit = true := by
  obtain ⟨k, rfl⟩ := exists_of_mem_digits h
  exact (digit_spec k).1

namespace Front
variable {α β : Type}

theorem number_append_digit (ds : List Char) (n : Nat) : number (ds ++ [digit n]) = number ds * 10 + n % 10 := by
  unfold number
  rw [List.foldl_append, List.foldl_cons, List.foldl_nil, (digit_spec n).2.2]

theorem number_digits (width n : Nat) : number (digits width n) = n % 10 ^ width := by
  induction width generalizing n with
  | zero => rw [Nat.pow_zero, Nat.mod_one]; rfl
  | succ width ih =>
    rw [digits, number_append_digit, ih, Nat.pow_succ, Nat.mul_comm (10 ^ width), Nat.mod_mul]
    omega

/-! ### One reader after the other -/

theorem bind_eq {f : Front α} {g : α → Front β} {cs r : List Char} {a : α} (h : f cs = some (a, r)) :
    (f >>= g) cs = g a r := by
  show (f cs >>= fun p => g p.1 p.2) = g a r
  rw [h]
  rfl

variable {width n : Nat}

theorem numeral_digits (h : n < 10 ^ width) (r : List Char) : numeral width (digits width n ++ r) = some (n, r) := by
  have hlen := length_digits width n
  rw [numeral, List.take_left' hlen, List.drop_left' hlen, number_digits, Nat.mod_eq_of_lt h]
  exact if_pos ⟨hlen, List.all_eq_true.2 fun _ => isDigit_of_mem_digits⟩

theorem char_cons (c : Char) (r : List Char) : char c (c :: r) = some ((), r) := if_pos rfl

theorem digitRun_digits {c : Char} (hc : c.isDigit = false) (width n : Nat) (r : List Char) :
    digitRun (digits width n ++ c :: r) = some (digits width n, c :: r) := by
  have hd : ∀ d ∈ digits width n, d.isDigit = true := fun _ => isDigit_of_mem_digits
  rw [digitRun, List.takeWhile_append_of_pos hd, List.dropWhile_append_of_pos hd,
    List.takeWhile_cons_of_neg (by rw [hc]; decide), List.dropWhile_cons_of_neg (by rw [hc]; decide), List.append_nil]

/-! ### White space -/

/-- The text does not begin with white space. -/
def Inked : List Char → Prop
  | [] => True
  | c :: _ => Text.blanks.mem c = false

instance : DecidablePred Inked
  | [] => isTrue trivial
  | c :: _ => inferInstanceAs (Decidable (Text.blanks.mem c = false))

theorem Inked.append {cs : List Char} (h : Inked cs) (hlen : 0 < cs.length) (r : List Char) : Inked (cs ++ r) := by
  cases cs with
  | nil => exact absurd hlen (Nat.lt_irrefl 0)
  | cons c cs => exact h

theorem inked_digits (width n : Nat) (r : List Char) : Inked (digits (width + 1) n ++ r) := by
  refine Inked.append ?_ (by rw [length_digits]; exact Nat.succ_pos width) r
  have hall : ∀ c ∈ digits (width + 1) n, Text.blanks.mem c = false := by
    intro c hc
    obtain ⟨k, rfl⟩ := exists_of_mem_digits hc
    exact (digit_spec k).2.1
  cases h : digits (width + 1) n with
  | nil => trivial
  | cons c cs => exact hall c (h ▸ List.mem_cons_self)

theorem skipBlanks_of_inked {cs : List Char} (h : Inked cs) : Text.skipBlanks cs = cs := by
  cases cs with
  | nil => rfl
  | cons c cs =>
    have hc : Text.blanks.mem c = false := h
    exact List.dropWhile_cons_of_neg (by rw [hc]; decide)

theorem blanks_of_inked {cs : List Char} (h : Inked cs) : blanks cs = some ((), cs) := by
  rw [blanks, skipBlanks_of_inked h]

-- A space is skipped by both, so that they go on with the text behind it.
theorem blank_space {cs : List Char} (h : Inked cs) : blank (' ' :: cs) = some ((), cs) := blanks_of_inked h

theorem blanks_space {cs : List Char} (h : Inked cs) : blanks (' ' :: cs) = some ((), cs) := blanks_of_inked h

end Front

open Front

namespace Rfc2822
variable {names : List String} {i : Nat}

/-! ### Names -/

/-- The name at a place has three letters, which tell it from those before it. -/
def Known (names : List String) (i : Nat) : Prop :=
  (names.getD i "").toList.length = 3 ∧ Inked (names.getD i "").toList ∧
    names.findIdx? (fun n => n.toList.map Char.toLower = (names.getD i "").toList.map Char.toLower) = some i

instance : Decidable (Known names i) := inferInstanceAs (Decidable (_ ∧ _ ∧ _))

theorem known_weekday : ∀ i < 7, Known weekdayNames i := by decide

theorem known_month : ∀ i < 12, Known monthNames i := by decide

theorem inked_of_known (h : Known names i) (r : List Char) : Inked ((names.getD i "").toList ++ r) :=
  h.2.1.append (by rw [h.1]; decide) r

theorem name_of_known (h : Known names i) (r : List Char) :
    name names ((names.getD i "").toList ++ r) = some (i, r) := by
  obtain ⟨hlen, -, hfound⟩ := h
  simp only [name, List.take_left' hlen, List.drop_left' hlen, hfound]

/-! ### Days, years and seconds -/

theorem weekday_of_known (h : Known weekdayNames i) (r : List Char) :
    weekday ((weekdayNames.getD i "").toList ++ ',' :: r) = some (some i, r) := by
  have hname : optionally (name weekdayNames) ((weekdayNames.getD i "").toList ++ ',' :: r) =
      some (some i, ',' :: r) := by
    rw [optionally, name_of_known h]
  rw [weekday, bind_eq hname]
  rfl

variable {n : Nat}

theorem day_digits (h : n < 100) (r : List Char) : day (digits 2 n ++ r) = some (n, r) := by
  rw [day, numeral_digits h]
  rfl

theorem year_digits (h : n < 10 ^ 4) (r : List Char) : year (digits 4 n ++ ' ' :: r) = some (n, ' ' :: r) := by
  have hlen := length_digits 4 n
  rw [year, bind_eq (digitRun_digits (by decide) 4 n r), hlen, number_digits, Nat.mod_eq_of_lt h]
  rfl

theorem second_digits (h : n < 100) (r : List Char) : second (':' :: (digits 2 n ++ r)) = some (n, r) := by
  have hmark : optionally (do blanks; char ':') (':' :: (digits 2 n ++ r)) = some (some (), digits 2 n ++ r) := rfl
  rw [second, bind_eq hmark]
  exact numeral_digits h r

end Rfc2822

end Callsign.Time
