import GuestInventory.Json.Text

/-!
Reading JSON as the standard has it, whoever wrote it: any blanks, all kinds of values, all escapes.
A surrogate that is not half of a pair stands for no character, so a text with one is refused. A
string that is written in printable ASCII is read back character by character.
-/
namespace GuestInventory.Json

inductive Tree
  | null
  | bool (b : Bool)
  | number (lexeme : String)
  | string (s : String)
  | array (items : List Tree)
  | object (members : List (String × Tree))

def isBlank (c : Char) : Bool := c = ' ' || c = '\t' || c = '\n' || c = '\r'

def skip (cs : List Char) : List Char := cs.dropWhile isBlank

section Strings

def hexDigit? (c : Char) : Option Nat :=
  if '0' ≤ c ∧ c ≤ '9' then some (c.toNat - 48)
  else if 'a' ≤ c ∧ c ≤ 'f' then some (c.toNat - 87)
  else if 'A' ≤ c ∧ c ≤ 'F' then some (c.toNat - 55)
  else none

def unit? (a b c d : Char) : Option Nat := do
  let a ← hexDigit? a
  let b ← hexDigit? b
  let c ← hexDigit? c
  let d ← hexDigit? d
  return ((a * 16 + b) * 16 + c) * 16 + d

def escaped? (c : Char) : Option Char :=
  if c = '"' ∨ c = '\\' ∨ c = '/' then some c
  else if c = 'b' then some '\x08'
  else if c = 'f' then some '\x0c'
  else if c = 'n' then some '\n'
  else if c = 'r' then some '\r'
  else if c = 't' then some '\t'
  else none

inductive Piece
  | char (c : Char)
  | unit (n : Nat)

def pieces : List Char → Option (List Piece × List Char)
  | [] => none
  | '"' :: rest => some ([], rest)
  | '\\' :: 'u' :: a :: b :: c :: d :: rest => do
    let n ← unit? a b c d
    let (more, rest) ← pieces rest
    return (.unit n :: more, rest)
  | '\\' :: e :: rest => do
    let c ← escaped? e
    let (more, rest) ← pieces rest
    return (.char c :: more, rest)
  | c :: rest =>
    if c.toNat < 0x20 ∨ c = '\\' then none
    else do
      let (more, rest) ← pieces rest
      return (.char c :: more, rest)

def isHigh (n : Nat) : Bool := 0xd800 ≤ n && n < 0xdc00

def isLow (n : Nat) : Bool := 0xdc00 ≤ n && n < 0xe000

/-- Puts characters together; `high` is the first half of a pair, if one has been read. -/
def join : (high : Option Nat) → List Piece → Option (List Char)
  | none, [] => some []
  | none, .char c :: rest => do return c :: (← join none rest)
  | none, .unit n :: rest =>
    if isHigh n then join (some n) rest
    else if isLow n then none
    else do return Char.ofNat n :: (← join none rest)
  | some high, .unit low :: rest =>
    if isLow low then do
      return Char.ofNat (0x10000 + (high - 0xd800) * 0x400 + (low - 0xdc00)) ::
        (← join none rest)
    else none
  | some _, _ => none

def text : List Char → Option (String × List Char)
  | '"' :: rest => do
    let (ps, rest) ← pieces rest
    return (String.ofList (← join none ps), rest)
  | _ => none

end Strings

section Numbers

def digits (cs : List Char) : Option (List Char × List Char) :=
  match cs.span Char.isDigit with
  | ([], _) => none
  | (ds, rest) => some (ds, rest)

def whole : List Char → Option (List Char × List Char)
  | '0' :: rest => some (['0'], rest)
  | cs => digits cs

def fraction : List Char → Option (List Char × List Char)
  | '.' :: rest => do
    let (ds, rest) ← digits rest
    return ('.' :: ds, rest)
  | cs => some ([], cs)

def signedDigits : List Char → Option (List Char × List Char)
  | [] => none
  | c :: rest =>
    if c = '+' ∨ c = '-' then do
      let (ds, rest) ← digits rest
      return (c :: ds, rest)
    else digits (c :: rest)

def exponent : List Char → Option (List Char × List Char)
  | [] => some ([], [])
  | c :: rest =>
    if c = 'e' ∨ c = 'E' then do
      let (ds, rest) ← signedDigits rest
      return (c :: ds, rest)
    else some ([], c :: rest)

def unsigned (cs : List Char) : Option (List Char × List Char) := do
  let (ds, rest) ← whole cs
  let (fs, rest) ← fraction rest
  let (es, rest) ← exponent rest
  return (ds ++ fs ++ es, rest)

def number (cs : List Char) : Option (Tree × List Char) := do
  let (lexeme, rest) ← match cs with
    | '-' :: rest => do
      let (ds, rest) ← unsigned rest
      pure ('-' :: ds, rest)
    | _ => unsigned cs
  return (.number (String.ofList lexeme), rest)

end Numbers

section Values

def sequence (read : List Char → Option (α × List Char)) (close : Char) :
    (count : Nat) → List Char → Option (List α × List Char)
  | 0, _ => none
  | count + 1, cs => do
    let (a, rest) ← read cs
    match skip rest with
    | [] => none
    | c :: rest =>
      if c = ',' then do
        let (more, rest) ← sequence read close count rest
        return (a :: more, rest)
      else if c = close then some ([a], rest)
      else none

/-- Things with commas between them, or nothing, up to `close`. There are no more things than
characters. -/
def listed (read : List Char → Option (α × List Char)) (close : Char) (cs : List Char) :
    Option (List α × List Char) :=
  match skip cs with
  | [] => none
  | c :: rest => if c = close then some ([], rest) else sequence read close cs.length cs

def member (read : List Char → Option (Tree × List Char)) (cs : List Char) :
    Option ((String × Tree) × List Char) := do
  let (name, rest) ← text (skip cs)
  match skip rest with
  | ':' :: rest => do
    let (tree, rest) ← read rest
    return ((name, tree), rest)
  | _ => none

def keyword (name : String) (tree : Tree) (cs : List Char) : Option (Tree × List Char) :=
  if name.toList.isPrefixOf cs then some (tree, cs.drop name.length) else none

def value : (depth : Nat) → List Char → Option (Tree × List Char)
  | 0, _ => none
  | depth + 1, cs =>
    match skip cs with
    | [] => none
    | c :: rest =>
      if c = '"' then do
        let (s, rest) ← text (c :: rest)
        return (.string s, rest)
      else if c = '[' then do
        let (items, rest) ← listed (value depth) ']' rest
        return (.array items, rest)
      else if c = '\x7b' then do
        let (members, rest) ← listed (member (value depth)) '\x7d' rest
        return (.object members, rest)
      else keyword "null" .null (c :: rest) <|> keyword "true" (.bool true) (c :: rest) <|>
        keyword "false" (.bool false) (c :: rest) <|> number (c :: rest)

/-- What a text says, if it is JSON and nothing else. Nothing is nested deeper than it is long. -/
def parse (s : String) : Option Tree :=
  match value s.length s.toList with
  | some (tree, rest) => if (skip rest).isEmpty then some tree else none
  | none => none

end Values

section Characters

theorem hexDigit?_digit {n : Nat} (h : n < 16) : hexDigit? (Hex.digit n) = some n := by
  have hall : ∀ i : Fin 16, hexDigit? (Hex.digit i) = some i.val := by decide
  exact hall ⟨n, h⟩

theorem unitEscape_eq (n : Nat) : unitEscape n =
    ['\\', 'u', Hex.digit (n / 4096 % 16), Hex.digit (n / 256 % 16), Hex.digit (n / 16 % 16),
      Hex.digit (n % 16)] := by
  have hfixed : Hex.fixed 4 n = [Hex.digit (n / 4096 % 16), Hex.digit (n / 256 % 16),
      Hex.digit (n / 16 % 16), Hex.digit (n / 1 % 16)] := rfl
  rw [unitEscape, hfixed, Nat.div_one]

theorem unit?_digits {n : Nat} (h : n < 0x10000) :
    unit? (Hex.digit (n / 4096 % 16)) (Hex.digit (n / 256 % 16)) (Hex.digit (n / 16 % 16))
      (Hex.digit (n % 16)) = some n := by
  have hdigit (k : Nat) : hexDigit? (Hex.digit (k % 16)) = some (k % 16) :=
    hexDigit?_digit (Nat.mod_lt k (by decide))
  have hn : ((n / 4096 % 16 * 16 + n / 256 % 16) * 16 + n / 16 % 16) * 16 + n % 16 = n := by
    omega
  simp only [unit?, hdigit, Option.bind_eq_bind, Option.bind_some, Option.pure_def, hn]

def Printable (c : Char) : Prop := 0x20 ≤ c.toNat ∧ c.toNat ≤ 0x7e

instance (c : Char) : Decidable (Printable c) := inferInstanceAs (Decidable (_ ∧ _))

/-- The three ways in which a character is written: as it stands, as a short escape, or as its
UTF-16 units. -/
inductive Written (c : Char) : List Char → Prop
  | plain (hc : Printable c) (hquote : c ≠ '"') (hbackslash : c ≠ '\\') : Written c [c]
  | short {e : Char} (he : escaped? e = some c) (hprintable : Printable e) : Written c ['\\', e]
  | units : Written c ((utf16 c).flatMap unitEscape)

theorem written_asciiChar (c : Char) : Written c (asciiChar c) := by
  unfold asciiChar
  by_cases hascii : c.toNat < 0x7f
  · have hunit : unitEscape c.toNat = (utf16 c).flatMap unitEscape := by
      have hutf16 : utf16 c = [c.toNat] := if_pos (by omega)
      rw [hutf16, List.flatMap_singleton]
    rw [if_pos hascii, plainChar, hunit]
    by_cases hquote : c = '"'
    · subst hquote
      exact .short rfl (by decide)
    by_cases hbackslash : c = '\\'
    · subst hbackslash
      exact .short rfl (by decide)
    rw [if_neg hquote, if_neg hbackslash]
    by_cases hb : c = '\x08'
    · subst hb
      exact .short (e := 'b') rfl (by decide)
    by_cases ht : c = '\t'
    · subst ht
      exact .short (e := 't') rfl (by decide)
    by_cases hn : c = '\n'
    · subst hn
      exact .short (e := 'n') rfl (by decide)
    by_cases hf : c = '\x0c'
    · subst hf
      exact .short (e := 'f') rfl (by decide)
    by_cases hr : c = '\r'
    · subst hr
      exact .short (e := 'r') rfl (by decide)
    rw [if_neg hb, if_neg ht, if_neg hn, if_neg hf, if_neg hr]
    by_cases hcontrol : c.toNat < 0x20
    · rw [if_pos hcontrol]
      exact .units
    · rw [if_neg hcontrol]
      exact .plain ⟨by omega, by omega⟩ hquote hbackslash
  · rw [if_neg hascii]
    exact .units

/-- `lead` is read as the pieces `ps` of a literal, and they stand for `c`. -/
structure StandsFor (lead : List Char) (ps : List Piece) (c : Char) : Prop where
  pieces_eq : ∀ rest more after, pieces rest = some (more, after) →
    pieces (lead ++ rest) = some (ps ++ more, after)
  join_eq : ∀ more cs, join none more = some cs → join none (ps ++ more) = some (c :: cs)

theorem standsFor_plain {c : Char} (hc : Printable c) (hquote : c ≠ '"') (hbackslash : c ≠ '\\') :
    StandsFor [c] [.char c] c where
  pieces_eq rest more after h := by
    simpa [pieces, hquote, hbackslash, h] using hc.1
  join_eq more cs h := by simp [join, h]

theorem standsFor_short {c e : Char} (he : escaped? e = some c) :
    StandsFor ['\\', e] [.char c] c where
  pieces_eq rest more after h := by
    have hu : e ≠ 'u' := by
      rintro rfl
      cases he
    simp [pieces, hu, he, h]
  join_eq more cs h := by simp [join, h]

theorem pieces_unitEscape {n : Nat} (hn : n < 0x10000) {rest after : List Char} {more : List Piece}
    (h : pieces rest = some (more, after)) :
    pieces (unitEscape n ++ rest) = some (.unit n :: more, after) := by
  rw [unitEscape_eq]
  simp only [List.cons_append, List.nil_append, pieces, unit?_digits hn, h]
  rfl

/-- A character is one unit that is no surrogate, or two that make up a pair. -/
theorem standsFor_units (c : Char) :
    StandsFor ((utf16 c).flatMap unitEscape) ((utf16 c).map .unit) c := by
  have hvalid : c.toNat < 0xd800 ∨ 0xdfff < c.toNat ∧ c.toNat < 0x110000 := c.valid
  by_cases hone : c.toNat < 0x10000
  · have hutf16 : utf16 c = [c.toNat] := if_pos hone
    rw [hutf16]
    refine ⟨?_, ?_⟩
    · intro rest more after h
      simpa using pieces_unitEscape hone h
    · intro more cs h
      have hhigh : isHigh c.toNat = false := by
        simp only [isHigh, Bool.and_eq_false_iff, decide_eq_false_iff_not]
        omega
      have hlow : isLow c.toNat = false := by
        simp only [isLow, Bool.and_eq_false_iff, decide_eq_false_iff_not]
        omega
      simp [join, hhigh, hlow, h]
  · have hutf16 : utf16 c = [0xd800 + (c.toNat - 0x10000) / 0x400,
        0xdc00 + (c.toNat - 0x10000) % 0x400] := if_neg hone
    rw [hutf16]
    refine ⟨?_, ?_⟩
    · intro rest more after h
      have hlow := pieces_unitEscape (n := 0xdc00 + (c.toNat - 0x10000) % 0x400) (by omega) h
      have hboth := pieces_unitEscape (n := 0xd800 + (c.toNat - 0x10000) / 0x400) (by omega) hlow
      simpa using hboth
    · intro more cs h
      have hhigh : isHigh (0xd800 + (c.toNat - 0x10000) / 0x400) = true := by
        simp only [isHigh, Bool.and_eq_true, decide_eq_true_eq]
        omega
      have hlow : isLow (0xdc00 + (c.toNat - 0x10000) % 0x400) = true := by
        simp only [isLow, Bool.and_eq_true, decide_eq_true_eq]
        omega
      have hpair : 0x10000 + (0xd800 + (c.toNat - 0x10000) / 0x400 - 0xd800) * 0x400 +
          (0xdc00 + (c.toNat - 0x10000) % 0x400 - 0xdc00) = c.toNat := by
        omega
      simp only [List.map_cons, List.map_nil, List.cons_append, List.nil_append, join, hhigh,
        hlow, hpair, h, Char.ofNat_toNat, if_true]
      rfl

/-- Each of the three ways of writing a character is read as that character. -/
theorem standsFor_asciiChar (c : Char) : ∃ ps, StandsFor (asciiChar c) ps c := by
  have h := written_asciiChar c
  generalize asciiChar c = lead at h
  cases h with
  | plain hc hquote hbackslash => exact ⟨_, standsFor_plain hc hquote hbackslash⟩
  | short he hprintable => exact ⟨_, standsFor_short he⟩
  | units => exact ⟨_, standsFor_units c⟩

/-- Characters are read one after another up to the closing quote. -/
theorem pieces_asciiChars (cs after : List Char) :
    ∃ ps, pieces (cs.flatMap asciiChar ++ '"' :: after) = some (ps, after) ∧
      join none ps = some cs := by
  induction cs with
  | nil => exact ⟨[], by simp [pieces], rfl⟩
  | cons c cs ih =>
    obtain ⟨more, hmore, hjoin⟩ := ih
    obtain ⟨ps, hps⟩ := standsFor_asciiChar c
    refine ⟨ps ++ more, ?_, hps.join_eq more cs hjoin⟩
    rw [List.flatMap_cons, List.append_assoc]
    exact hps.pieces_eq _ more after hmore

/-- A literal is read as the string that it was written for, and what follows it is left. -/
theorem text_quoted (s : String) (after : List Char) :
    text (quoted asciiChar s ++ after) = some (s, after) := by
  obtain ⟨ps, hps, hjoin⟩ := pieces_asciiChars s.toList after
  have hquoted : quoted asciiChar s ++ after =
      '"' :: (s.toList.flatMap asciiChar ++ '"' :: after) := by
    simp [quoted]
  rw [hquoted]
  simp only [text, hps, hjoin, Option.bind_eq_bind, Option.bind_some, Option.pure_def,
    String.ofList_toList]

end Characters

end GuestInventory.Json
