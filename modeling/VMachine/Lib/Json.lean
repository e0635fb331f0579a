import Mathlib.Data.Char
import Mathlib.Tactic.IntervalCases
import VMachine.Lib.Dict
import VMachine.Lib.Python

/-! JSON, as the `json` module of Python writes and reads it: `dumps` with its default settings
writes ASCII only, and `loads` reads what it has written. Floating-point numbers are left out. -/
namespace Json
open Py

section Strings

/- A character as one or two code units of UTF-16. -/
def units (c : Char) : List Nat :=
  if c.toNat < 0x10000 then [c.toNat]
  else [0xD800 + (c.toNat - 0x10000) / 0x400, 0xDC00 + (c.toNat - 0x10000) % 0x400]

def paired (high low : Nat) : Bool := decide (0xD800 ≤ high ∧ high < 0xDC00 ∧ 0xDC00 ≤ low ∧ low < 0xE000)

def chars : List Nat → List Char
  | [] => []
  | [n] => [Char.ofNat n]
  | n :: low :: rest =>
    if paired n low then Char.ofNat (0x10000 + (n - 0xD800) * 0x400 + (low - 0xDC00)) :: chars rest
    else Char.ofNat n :: chars (low :: rest)

/- The characters that are escaped by a letter or themselves. -/
def shortEscapes : List (Nat × Char) :=
  [(0x22, '"'), (0x5C, '\\'), (0x0A, 'n'), (0x0D, 'r'), (0x09, 't'), (0x0C, 'f'), (0x08, 'b')]

def escape (n : Nat) : List Char :=
  match shortEscapes.lookup n with
  | some c => ['\\', c]
  | none =>
    if 0x20 ≤ n ∧ n ≤ 0x7E then [Char.ofNat n]
    else ['\\', 'u', (n / 0x1000).digitChar, (n / 0x100 % 0x10).digitChar, (n / 0x10 % 0x10).digitChar,
      (n % 0x10).digitChar]

/- A string between quotation marks. -/
def quote (s : String) : List Char := '"' :: ((s.toList.flatMap units).flatMap escape ++ ['"'])

def unhex (c : Char) : Option Nat :=
  if '0' ≤ c ∧ c ≤ '9' then some (c.toNat - 48)
  else if 'a' ≤ c ∧ c ≤ 'f' then some (c.toNat - 87)
  else if 'A' ≤ c ∧ c ≤ 'F' then some (c.toNat - 55)
  else none

def unescape : Char → Option Nat
  | '"' => some 0x22
  | '\\' => some 0x5C
  | '/' => some 0x2F
  | 'n' => some 0x0A
  | 'r' => some 0x0D
  | 't' => some 0x09
  | 'f' => some 0x0C
  | 'b' => some 0x08
  | _ => none

/- Four hexadecimal digits. -/
def readHex : List Char → Option (Nat × List Char)
  | a :: b :: c :: d :: rest =>
    match unhex a, unhex b, unhex c, unhex d with
    | some a, some b, some c, some d => some (a * 0x1000 + b * 0x100 + c * 0x10 + d, rest)
    | _, _, _, _ => none
  | _ => none

def readEscape : List Char → Option (Nat × List Char)
  | [] => none
  | c :: rest => if c = 'u' then readHex rest else (unescape c).map (fun n => (n, rest))

/- One code unit. A control character must be escaped. -/
def readUnit : List Char → Option (Nat × List Char)
  | [] => none
  | c :: rest => if c = '\\' then readEscape rest else if c.toNat < 0x20 then none else some (c.toNat, rest)

/- The code units up to the quotation mark. -/
def readUnits : Nat → List Char → Option (List Nat × List Char)
  | 0, _ => none
  | fuel + 1, text =>
    if text.head? = some '"' then some ([], text.tail)
    else (readUnit text).bind (fun (n, rest) => (readUnits fuel rest).map (fun (ns, more) => (n :: ns, more)))

/- The rest of a string, once its first quotation mark has been read. -/
def readString (text : List Char) : Option (String × List Char) :=
  (readUnits (text.length + 1) text).map (fun (ns, more) => (String.ofList (chars ns), more))

theorem units_lt {c : Char} {n : Nat} (member : n ∈ units c) : n < 0x10000 := by
  have valid : c.toNat < 0x110000 := by
    obtain low | high := c.valid
    · exact lt_trans low (by decide)
    · exact high.2
  unfold units at member
  split at member
  · simp only [List.mem_singleton] at member
    omega
  · simp only [List.mem_cons, List.not_mem_nil, or_false] at member
    omega

/-- A character is found again in its code units. -/
theorem chars_units (c : Char) (rest : List Nat) : chars (units c ++ rest) = c :: chars rest := by
  have same : Char.ofNat c.toNat = c := Char.ofNat_toNat c
  unfold units
  split
  · rename_i small
    have alone (low : Nat) : paired c.toNat low = false := by
      have valid : c.toNat < 0xD800 ∨ 0xDFFF < c.toNat := by
        obtain low | high := c.valid
        · exact .inl low
        · exact .inr high.1
      exact decide_eq_false (fun pair => by omega)
    cases rest with
    | nil => simp [chars, same]
    | cons low rest => simp [chars, alone, same]
  · rename_i large
    have valid : c.toNat < 0x110000 := by
      obtain low | high := c.valid
      · exact lt_trans low (by decide)
      · exact high.2
    have pair : paired (0xD800 + (c.toNat - 0x10000) / 0x400) (0xDC00 + (c.toNat - 0x10000) % 0x400) = true :=
      decide_eq_true (by omega)
    have code : 0x10000 + (0xD800 + (c.toNat - 0x10000) / 0x400 - 0xD800) * 0x400 +
        (0xDC00 + (c.toNat - 0x10000) % 0x400 - 0xDC00) = c.toNat := by omega
    simp only [List.cons_append, List.nil_append, chars, pair, if_true, code, same]

theorem chars_flatMap_units (text : List Char) : chars (text.flatMap units) = text := by
  induction text with
  | nil => rfl
  | cons c text ih => rw [List.flatMap_cons, chars_units, ih]

theorem unhex_digitChar {n : Nat} (small : n < 0x10) : unhex n.digitChar = some n := by
  interval_cases n <;> decide

theorem shortEscape_reads {n : Nat} {c : Char} (found : shortEscapes.lookup n = some c) : unescape c = some n ∧ c ≠ 'u' := by
  have all : ∀ entry ∈ shortEscapes, unescape entry.2 = some entry.1 ∧ entry.2 ≠ 'u' := by decide
  obtain ⟨before, after, split, _⟩ := List.lookup_eq_some_iff.mp found
  exact all (n, c) (by rw [split]; simp)

/- A character that stands for itself. -/
theorem printable_plain {n : Nat} (long : shortEscapes.lookup n = none) (printable : 0x20 ≤ n ∧ n ≤ 0x7E) :
    (Char.ofNat n).toNat = n ∧ Char.ofNat n ≠ '\\' ∧ Char.ofNat n ≠ '"' := by
  have valid : n.isValidChar := .inl (by omega)
  have code : (Char.ofNat n).toNat = n := by
    rw [Char.ofNat, dif_pos valid]
    rfl
  refine ⟨code, fun same => ?_, fun same => ?_⟩
  · rw [same] at code
    subst code
    contradiction
  · rw [same] at code
    subst code
    contradiction

theorem readUnit_escape {n : Nat} (unit : n < 0x10000) (rest : List Char) : readUnit (escape n ++ rest) = some (n, rest) := by
  unfold escape
  split
  · rename_i c found
    obtain ⟨reads, other⟩ := shortEscape_reads found
    simp [readUnit, readEscape, other, reads]
  · rename_i long
    split
    · rename_i printable
      obtain ⟨code, plain, _⟩ := printable_plain long printable
      simp [readUnit, plain, code, printable.1]
    · have parts : n / 0x1000 * 0x1000 + n / 0x100 % 0x10 * 0x100 + n / 0x10 % 0x10 * 0x10 + n % 0x10 = n := by omega
      simp only [List.cons_append, List.nil_append, readUnit, readEscape, if_true, readHex,
        unhex_digitChar (show n / 0x1000 < 0x10 by omega), unhex_digitChar (show n / 0x100 % 0x10 < 0x10 by omega),
        unhex_digitChar (show n / 0x10 % 0x10 < 0x10 by omega), unhex_digitChar (show n % 0x10 < 0x10 by omega), parts]

/-- An escaped unit is not taken for the end of the string. -/
theorem escape_head (n : Nat) : ∃ c cs, escape n = c :: cs ∧ c ≠ '"' := by
  unfold escape
  split
  · exact ⟨_, _, rfl, by decide⟩
  · rename_i long
    split
    · rename_i printable
      exact ⟨_, _, rfl, (printable_plain long printable).2.2⟩
    · exact ⟨_, _, rfl, by decide⟩

theorem readUnits_escape {ns : List Nat} (each : ∀ n ∈ ns, n < 0x10000) {fuel : Nat} (enough : ns.length < fuel)
    (rest : List Char) : readUnits fuel (ns.flatMap escape ++ '"' :: rest) = some (ns, rest) := by
  induction ns generalizing fuel with
  | nil =>
    obtain ⟨more, rfl⟩ := Nat.exists_eq_succ_of_ne_zero (Nat.ne_of_gt enough)
    rfl
  | cons n ns ih =>
    obtain ⟨more, rfl⟩ := Nat.exists_eq_succ_of_ne_zero (Nat.ne_of_gt (Nat.zero_lt_of_lt enough))
    obtain ⟨c, cs, head, other⟩ := escape_head n
    have unit := readUnit_escape (each n List.mem_cons_self) (ns.flatMap escape ++ '"' :: rest)
    have later := ih (fun m member => each m (List.mem_cons_of_mem _ member)) (Nat.lt_of_succ_lt_succ enough)
    have first : (escape n ++ (ns.flatMap escape ++ '"' :: rest)).head? ≠ some '"' := by simp [head, other]
    simp only [List.flatMap_cons, List.append_assoc, readUnits, if_neg first, unit, Option.bind_some, later, Option.map_some]

/-- A string is found again behind its quotation mark. -/
theorem readString_quote (s : String) (rest : List Char) : readString ((quote s).tail ++ rest) = some (s, rest) := by
  have short : ∀ ns : List Nat, ns.length ≤ (ns.flatMap escape).length := by
    intro ns
    induction ns with
    | nil => exact Nat.le_refl 0
    | cons n ns ih =>
      obtain ⟨c, cs, head, _⟩ := escape_head n
      rw [List.flatMap_cons, List.length_append, List.length_cons, head, List.length_cons]
      omega
  have text : (quote s).tail ++ rest = (s.toList.flatMap units).flatMap escape ++ '"' :: rest := by simp [quote]
  have each : ∀ n ∈ s.toList.flatMap units, n < 0x10000 := by
    intro n member
    obtain ⟨c, _, own⟩ := List.mem_flatMap.mp member
    exact units_lt own
  have enough : (s.toList.flatMap units).length <
      ((s.toList.flatMap units).flatMap escape ++ '"' :: rest).length + 1 := by
    rw [List.length_append]
    exact Nat.lt_succ_of_le (Nat.le_add_right_of_le (short _))
  simp only [text, readString, readUnits_escape each enough, Option.map_some, chars_flatMap_units, String.ofList_toList]

end Strings

section Numbers

def decimal : Int → List Char
  | .ofNat n => Nat.toDigits 10 n
  | .negSucc n => '-' :: Nat.toDigits 10 (n + 1)

/- Digits, without a zero in front. -/
def natural (text : List Char) : Option (Nat × List Char) :=
  let digits := text.takeWhile Char.isDigit
  if digits = [] ∨ (digits.head? = some '0' ∧ digits ≠ ['0']) then none
  else some (Nat.ofDigitChars 10 digits 0, text.dropWhile Char.isDigit)

def number : List Char → Option (Int × List Char)
  | [] => none
  | c :: rest =>
    if c = '-' then (natural rest).map (fun (n, more) => (-(n : Int), more))
    else (natural (c :: rest)).map (fun (n, more) => ((n : Int), more))

/- No digit goes on here. -/
def Ends (rest : List Char) : Prop := ∀ c ∈ rest.head?, c.isDigit = false

theorem toDigits_ne_nil (n : Nat) : Nat.toDigits 10 n ≠ [] := List.ne_nil_of_length_pos Nat.length_toDigits_pos

/-- Only zero starts with a zero. -/
theorem toDigits_head {n : Nat} (positive : 0 < n) : (Nat.toDigits 10 n).head? ≠ some '0' := by
  induction n using Nat.strong_induction_on with
  | _ n ih =>
    by_cases small : n < 10
    · rw [Nat.toDigits_of_lt_base small]
      simpa using positive.ne'
    · rw [Nat.toDigits_of_base_le (by decide) (Nat.not_lt.mp small), List.head?_append_of_ne_nil _ (toDigits_ne_nil _)]
      exact ih (n / 10) (by omega) (by omega)

theorem natural_toDigits (n : Nat) {rest : List Char} (ends : Ends rest) :
    natural (Nat.toDigits 10 n ++ rest) = some (n, rest) := by
  have digits : ∀ c ∈ Nat.toDigits 10 n, c.isDigit = true := fun c member =>
    Nat.isDigit_of_mem_toDigits (by decide) (by decide) member
  have stops : rest.takeWhile Char.isDigit = [] ∧ rest.dropWhile Char.isDigit = rest := by
    cases rest with
    | nil => exact ⟨rfl, rfl⟩
    | cons c rest => simp [ends c rfl]
  have taken : (Nat.toDigits 10 n ++ rest).takeWhile Char.isDigit = Nat.toDigits 10 n := by
    rw [List.takeWhile_append_of_pos digits, stops.1, List.append_nil]
  have left : (Nat.toDigits 10 n ++ rest).dropWhile Char.isDigit = rest := by
    rw [List.dropWhile_append_of_pos digits, stops.2]
  have fine : ¬ (Nat.toDigits 10 n = [] ∨ ((Nat.toDigits 10 n).head? = some '0' ∧ Nat.toDigits 10 n ≠ ['0'])) := by
    rintro (none | ⟨zero, more⟩)
    · exact toDigits_ne_nil n none
    · obtain rfl | positive := Nat.eq_zero_or_pos n
      · exact more (Nat.toDigits_zero 10)
      · exact toDigits_head positive zero
  rw [natural, taken, left, if_neg fine, Nat.ofDigitChars_ten_toDigits]

theorem number_decimal (i : Int) {rest : List Char} (ends : Ends rest) : number (decimal i ++ rest) = some (i, rest) := by
  cases i with
  | ofNat n =>
    have whole := natural_toDigits n ends
    obtain ⟨c, cs, digits⟩ := List.exists_cons_of_ne_nil (toDigits_ne_nil n)
    have digit : c.isDigit = true := Nat.isDigit_of_mem_toDigits (by decide) (by decide) (digits ▸ List.mem_cons_self)
    have unsigned : c ≠ '-' := by
      rintro rfl
      contradiction
    simp only [decimal, digits, List.cons_append, number, if_neg unsigned] at whole ⊢
    simp [whole]
  | negSucc n =>
    simp only [decimal, List.cons_append, number, if_true, natural_toDigits (n + 1) ends, Option.map_some]
    rfl

end Numbers

section Values

mutual
def dump : Val → List Char
  | .none => ['n', 'u', 'l', 'l']
  | .bool true => ['t', 'r', 'u', 'e']
  | .bool false => ['f', 'a', 'l', 's', 'e']
  | .int i => decimal i
  | .str s => quote s
  | .list [] => ['[', ']']
  | .list (v :: vs) => '[' :: (dump v ++ dumpItems vs)
  | .dict [] => ['\x7b', '\x7d']
  | .dict ((k, v) :: kvs) => '\x7b' :: (quote k ++ ':' :: ' ' :: (dump v ++ dumpMembers kvs))
/- What follows the first element of a list, with the end of the list. -/
def dumpItems : List Val → List Char
  | [] => [']']
  | v :: vs => ',' :: ' ' :: (dump v ++ dumpItems vs)
def dumpMembers : List (String × Val) → List Char
  | [] => ['\x7d']
  | (k, v) :: kvs => ',' :: ' ' :: (quote k ++ ':' :: ' ' :: (dump v ++ dumpMembers kvs))
end

def isSpace (c : Char) : Bool := c = ' ' || c = '\t' || c = '\n' || c = '\r'

def skip (text : List Char) : List Char := text.dropWhile isSpace

mutual
def value : Nat → List Char → Option (Val × List Char)
  | 0, _ => none
  | fuel + 1, text =>
    match number text with
    | some (i, more) => some (.int i, more)
    | none =>
      match text with
      | 'n' :: 'u' :: 'l' :: 'l' :: more => some (.none, more)
      | 't' :: 'r' :: 'u' :: 'e' :: more => some (.bool true, more)
      | 'f' :: 'a' :: 'l' :: 's' :: 'e' :: more => some (.bool false, more)
      | '"' :: rest => (readString rest).map (fun (s, more) => (.str s, more))
      | '[' :: rest =>
        match skip rest with
        | ']' :: more => some (.list [], more)
        | first => (value fuel first).bind (fun (v, more) =>
            (items fuel (skip more)).map (fun (vs, more) => (.list (v :: vs), more)))
      | '\x7b' :: rest =>
        match skip rest with
        | '\x7d' :: more => some (.dict [], more)
        | first => (member fuel first).bind (fun (entry, more) =>
            (members fuel (skip more)).map (fun (kvs, more) => (.dict (Dict.build Prod.fst Prod.snd (entry :: kvs)), more)))
      | _ => none
def items : Nat → List Char → Option (List Val × List Char)
  | 0, _ => none
  | fuel + 1, text =>
    match text with
    | ']' :: more => some ([], more)
    | ',' :: rest => (value fuel (skip rest)).bind (fun (v, more) =>
        (items fuel (skip more)).map (fun (vs, more) => (v :: vs, more)))
    | _ => none
def member : Nat → List Char → Option ((String × Val) × List Char)
  | 0, _ => none
  | fuel + 1, text =>
    match text with
    | '"' :: rest => (readString rest).bind (fun (k, more) =>
        match skip more with
        | ':' :: rest => (value fuel (skip rest)).map (fun (v, more) => ((k, v), more))
        | _ => none)
    | _ => none
def members : Nat → List Char → Option (List (String × Val) × List Char)
  | 0, _ => none
  | fuel + 1, text =>
    match text with
    | '\x7d' :: more => some ([], more)
    | ',' :: rest => (member fuel (skip rest)).bind (fun (entry, more) =>
        (members fuel (skip more)).map (fun (kvs, more) => (entry :: kvs, more)))
    | _ => none
end

def dumps (v : Val) : String := String.ofList (dump v)

/- A text that is one value, with nothing but space around it. -/
def loads (text : String) : Option Val :=
  match value (text.length + 1) (skip text.toList) with
  | some (v, more) => if skip more = [] then some v else none
  | none => none

/- A value of Python: the keys of a dictionary are distinct. -/
mutual
def proper : Val → Bool
  | .list vs => allProper vs
  | .dict kvs => decide (kvs.map Prod.fst).Nodup && entriesProper kvs
  | _ => true
def allProper : List Val → Bool
  | [] => true
  | v :: vs => proper v && allProper vs
def entriesProper : List (String × Val) → Bool
  | [] => true
  | (_, v) :: kvs => proper v && entriesProper kvs
end

theorem allProper_iff {vs : List Val} : allProper vs = true ↔ ∀ v ∈ vs, proper v = true := by
  induction vs with
  | nil => simp [allProper]
  | cons v vs ih => simp [allProper, ih]

theorem entriesProper_iff {kvs : List (String × Val)} : entriesProper kvs = true ↔ ∀ entry ∈ kvs, proper entry.2 = true := by
  induction kvs with
  | nil => simp [entriesProper]
  | cons entry kvs ih =>
    rw [entriesProper, Bool.and_eq_true, ih]
    exact (List.forall_mem_cons (p := fun entry : String × Val => proper entry.2 = true)).symm

theorem skip_cons {c : Char} (solid : isSpace c = false) (text : List Char) : skip (c :: text) = c :: text := by
  rw [skip, List.dropWhile_cons_of_neg (by simp [solid])]

theorem skip_space (text : List Char) : skip (' ' :: text) = skip text := by
  rw [skip, List.dropWhile_cons_of_pos (by decide), skip]

/- The first characters of the values that are no numbers. -/
def marks : List Char := ['n', 't', 'f', '"', '[', '\x7b']

theorem number_eq_none {c : Char} (mark : c ∈ marks) (text : List Char) : number (c :: text) = none := by
  have plain : c ≠ '-' ∧ c.isDigit = false := by
    simp only [marks, List.mem_cons, List.not_mem_nil, or_false] at mark
    rcases mark with rfl | rfl | rfl | rfl | rfl | rfl <;> decide
  obtain ⟨unsigned, other⟩ := plain
  simp [number, unsigned, natural, other]

theorem value_of_number {fuel : Nat} {text : List Char} {i : Int} {more : List Char} (found : number text = some (i, more)) :
    value (fuel + 1) text = some (.int i, more) := by
  rw [value.eq_def]
  simp only [found]

/- How a value starts: with no space, and not like the end of a list. -/
def Begins (text : List Char) : Prop := ∃ c cs, text = c :: cs ∧ isSpace c = false ∧ c ≠ ']'

theorem decimal_begins (i : Int) : Begins (decimal i) := by
  have digits (n : Nat) : Begins (Nat.toDigits 10 n) := by
    obtain ⟨c, cs, split⟩ := List.exists_cons_of_ne_nil (toDigits_ne_nil n)
    have digit : c.isDigit = true := Nat.isDigit_of_mem_toDigits (by decide) (by decide) (split ▸ List.mem_cons_self)
    refine ⟨c, cs, split, ?_, ?_⟩
    · by_contra space
      simp only [isSpace, Bool.not_eq_false, Bool.or_eq_true, decide_eq_true_eq] at space
      rcases space with ((rfl | rfl) | rfl) | rfl <;> contradiction
    · rintro rfl
      contradiction
  cases i with
  | ofNat n => exact digits n
  | negSucc n => exact ⟨'-', _, rfl, by decide, by decide⟩

theorem dump_begins (v : Val) : Begins (dump v) := by
  cases v with
  | none => exact ⟨_, _, rfl, by decide, by decide⟩
  | bool b => cases b <;> exact ⟨_, _, rfl, by decide, by decide⟩
  | int i => exact decimal_begins i
  | str s => exact ⟨_, _, rfl, by decide, by decide⟩
  | list vs => cases vs <;> exact ⟨_, _, rfl, by decide, by decide⟩
  | dict kvs => cases kvs <;> exact ⟨_, _, rfl, by decide, by decide⟩

theorem skip_dump (v : Val) (rest : List Char) : skip (dump v ++ rest) = dump v ++ rest := by
  obtain ⟨c, cs, split, solid, _⟩ := dump_begins v
  rw [split, List.cons_append, skip_cons solid]

theorem items_follow (vs : List Val) (rest : List Char) :
    skip (dumpItems vs ++ rest) = dumpItems vs ++ rest ∧ Ends (dumpItems vs ++ rest) := by
  cases vs with
  | nil => exact ⟨skip_cons (by decide) _, by rintro c ⟨⟩; decide⟩
  | cons v vs => exact ⟨skip_cons (by decide) _, by rintro c ⟨⟩; decide⟩

theorem members_follow (kvs : List (String × Val)) (rest : List Char) :
    skip (dumpMembers kvs ++ rest) = dumpMembers kvs ++ rest ∧ Ends (dumpMembers kvs ++ rest) := by
  cases kvs with
  | nil => exact ⟨skip_cons (by decide) _, by rintro c ⟨⟩; decide⟩
  | cons entry kvs => exact ⟨skip_cons (by decide) _, by rintro c ⟨⟩; decide⟩

theorem value_quote (s : String) (fuel : Nat) (rest : List Char) : value (fuel + 1) (quote s ++ rest) = some (.str s, rest) := by
  have read := readString_quote s rest
  simp only [quote, List.tail_cons, List.cons_append] at read ⊢
  rw [value.eq_def]
  simp only [number_eq_none (show '"' ∈ marks by decide)]
  simp only [read, Option.map_some]

theorem value_list (v : Val) (fuel : Nat) (rest : List Char) : value (fuel + 1) ('[' :: (dump v ++ rest)) =
    (value fuel (dump v ++ rest)).bind (fun (v, more) =>
      (items fuel (skip more)).map (fun (vs, more) => (.list (v :: vs), more))) := by
  obtain ⟨c, cs, split, solid, other⟩ := dump_begins v
  rw [value.eq_def]
  simp only [number_eq_none (show '[' ∈ marks by decide)]
  simp only [split, List.cons_append, skip_cons solid]
  split
  · rename_i same
    exact absurd (List.cons.inj same).1 other
  · rfl

theorem member_dump (k : String) (v : Val) (fuel : Nat) (rest : List Char) :
    member (fuel + 1) (quote k ++ ':' :: ' ' :: (dump v ++ rest)) =
      (value fuel (dump v ++ rest)).map (fun (v, more) => ((k, v), more)) := by
  have read := readString_quote k (':' :: ' ' :: (dump v ++ rest))
  have colon : skip (':' :: ' ' :: (dump v ++ rest)) = ':' :: ' ' :: (dump v ++ rest) := skip_cons (by decide) _
  simp only [quote, List.tail_cons, List.cons_append] at read ⊢
  rw [member]
  simp only [read, Option.bind_some, colon, skip_space, skip_dump]

theorem value_dict (k : String) (fuel : Nat) (rest : List Char) : value (fuel + 1) ('\x7b' :: (quote k ++ rest)) =
    (member fuel (quote k ++ rest)).bind (fun (entry, more) =>
      (members fuel (skip more)).map (fun (kvs, more) => (.dict (Dict.build Prod.fst Prod.snd (entry :: kvs)), more))) := by
  rw [value.eq_def]
  simp only [number_eq_none (show '\x7b' ∈ marks by decide)]
  simp only [quote, List.cons_append, skip_cons (show isSpace '"' = false by decide)]
  rfl

mutual
/-- A value is found again, if no digit follows it. -/
theorem value_dump : ∀ (v : Val) (fuel : Nat) (rest : List Char), proper v = true → (dump v).length ≤ fuel → Ends rest →
    value fuel (dump v ++ rest) = some (v, rest)
  | v, 0, rest, _, enough, _ => by
    obtain ⟨c, cs, split, _⟩ := dump_begins v
    rw [split] at enough
    contradiction
  | .none, fuel + 1, rest, _, _, _ => by
    rw [value.eq_def]
    simp only [dump, List.cons_append, List.nil_append, number_eq_none (show 'n' ∈ marks by decide)]
  | .bool true, fuel + 1, rest, _, _, _ => by
    rw [value.eq_def]
    simp only [dump, List.cons_append, List.nil_append, number_eq_none (show 't' ∈ marks by decide)]
  | .bool false, fuel + 1, rest, _, _, _ => by
    rw [value.eq_def]
    simp only [dump, List.cons_append, List.nil_append, number_eq_none (show 'f' ∈ marks by decide)]
  | .int i, fuel + 1, rest, _, _, ends => value_of_number (number_decimal i ends)
  | .str s, fuel + 1, rest, _, _, _ => by rw [dump, value_quote]
  | .list [], fuel + 1, rest, _, _, _ => by
    rw [value.eq_def]
    simp only [dump, List.cons_append, List.nil_append, number_eq_none (show '[' ∈ marks by decide),
      skip_cons (show isSpace ']' = false by decide)]
  | .list (v :: vs), fuel + 1, rest, fine, enough, _ => by
    simp only [proper, allProper, Bool.and_eq_true] at fine
    simp only [dump, List.length_cons, List.length_append] at enough
    obtain ⟨solid, ends⟩ := items_follow vs rest
    have first := value_dump v fuel (dumpItems vs ++ rest) fine.1 (by omega) ends
    have others := items_dump vs fuel rest fine.2 (by omega)
    rw [dump, List.cons_append, List.append_assoc, value_list]
    simp only [first, Option.bind_some, solid, others, Option.map_some]
  | .dict [], fuel + 1, rest, _, _, _ => by
    rw [value.eq_def]
    simp only [dump, List.cons_append, List.nil_append, number_eq_none (show '\x7b' ∈ marks by decide),
      skip_cons (show isSpace '\x7d' = false by decide)]
  | .dict ((k, v) :: kvs), fuel + 1, rest, fine, enough, _ => by
    simp only [proper, entriesProper, Bool.and_eq_true, decide_eq_true_eq] at fine
    simp only [dump, List.length_cons, List.length_append] at enough
    obtain ⟨solid, ends⟩ := members_follow kvs rest
    obtain ⟨less, rfl⟩ : ∃ less, fuel = less + 1 := ⟨fuel - 1, by omega⟩
    have first := value_dump v less (dumpMembers kvs ++ rest) fine.2.1 (by omega) ends
    have others := members_dump kvs (less + 1) rest fine.2.2 (by omega)
    simp only [dump, List.cons_append, List.append_assoc]
    rw [value_dict, member_dump]
    simp only [first, Option.map_some, Option.bind_some, solid, others, Dict.build_entries fine.1]
theorem items_dump : ∀ (vs : List Val) (fuel : Nat) (rest : List Char), allProper vs = true → (dumpItems vs).length ≤ fuel →
    items fuel (dumpItems vs ++ rest) = some (vs, rest)
  | [], 0, rest, _, enough => by contradiction
  | _ :: _, 0, rest, _, enough => by contradiction
  | [], fuel + 1, rest, _, _ => by rw [dumpItems, List.cons_append, items, List.nil_append]
  | v :: vs, fuel + 1, rest, fine, enough => by
    simp only [allProper, Bool.and_eq_true] at fine
    simp only [dumpItems, List.length_cons, List.length_append] at enough
    obtain ⟨solid, ends⟩ := items_follow vs rest
    have first := value_dump v fuel (dumpItems vs ++ rest) fine.1 (by omega) ends
    have others := items_dump vs fuel rest fine.2 (by omega)
    simp only [dumpItems, List.cons_append, List.append_assoc, items, skip_space, skip_dump, first, Option.bind_some, solid,
      others, Option.map_some]
theorem members_dump : ∀ (kvs : List (String × Val)) (fuel : Nat) (rest : List Char), entriesProper kvs = true →
    (dumpMembers kvs).length ≤ fuel → members fuel (dumpMembers kvs ++ rest) = some (kvs, rest)
  | [], 0, rest, _, enough => by contradiction
  | _ :: _, 0, rest, _, enough => by contradiction
  | [], fuel + 1, rest, _, _ => by rw [dumpMembers, List.cons_append, members, List.nil_append]
  | (k, v) :: kvs, fuel + 1, rest, fine, enough => by
    simp only [entriesProper, Bool.and_eq_true] at fine
    simp only [dumpMembers, List.length_cons, List.length_append] at enough
    obtain ⟨solid, ends⟩ := members_follow kvs rest
    obtain ⟨less, some⟩ : ∃ less, fuel = less + 1 := ⟨fuel - 1, by omega⟩
    have first := value_dump v less (dumpMembers kvs ++ rest) fine.1 (by omega) ends
    have entry : member fuel (quote k ++ ':' :: ' ' :: (dump v ++ (dumpMembers kvs ++ rest))) =
        Option.some ((k, v), dumpMembers kvs ++ rest) := by
      rw [some, member_dump, first, Option.map_some]
    have others := members_dump kvs fuel rest fine.2 (by omega)
    have key : skip (' ' :: (quote k ++ ':' :: ' ' :: (dump v ++ (dumpMembers kvs ++ rest)))) =
        quote k ++ ':' :: ' ' :: (dump v ++ (dumpMembers kvs ++ rest)) := by
      rw [skip_space, quote, List.cons_append, skip_cons (by decide)]
    simp only [dumpMembers, List.cons_append, List.append_assoc, members, key, entry, Option.bind_some, solid, others,
      Option.map_some]
end

/-- Reading inverts writing. -/
theorem loads_dumps (v : Val) (fine : proper v = true) : loads (dumps v) = some v := by
  have all := value_dump v ((dump v).length + 1) [] fine (Nat.le_succ _) (by rintro c ⟨⟩)
  have start := skip_dump v []
  rw [List.append_nil] at all start
  have length : (dumps v).length = (dump v).length := by rw [dumps, String.length_ofList]
  rw [loads, length, dumps, String.toList_ofList, start, all]
  rfl

end Values
end Json
