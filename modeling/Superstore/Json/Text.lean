import Mathlib.Data.List.Basic
import Superstore.Json.Value

/-!
# The text of a JSON value

Strings are lists of UTF-16 code units. Their text is Unicode: two surrogates that belong together are
one character, and a surrogate that stands alone is escaped, as are quotation marks, backslashes and
control characters. Different values have different texts; the text of a number only has to be made of
the characters of numbers, and to be different for different numbers.
-/

namespace Json

/-- A string, as its UTF-16 code units. -/
abbrev JsString := List UInt16

/-! ## Strings -/

/-- The code units that have an escape of their own. -/
def shortEscapes : List (UInt16 × Char) :=
  [(0x22, '"'), (0x5c, '\\'), (0x08, 'b'), (0x09, 't'), (0x0a, 'n'), (0x0c, 'f'), (0x0d, 'r')]

/-- The first half of a character outside the basic plane. -/
def isHigh (c : UInt16) : Bool := 0xd800 ≤ c.toNat && c.toNat < 0xdc00

/-- The second half of a character outside the basic plane. -/
def isLow (c : UInt16) : Bool := 0xdc00 ≤ c.toNat && c.toNat < 0xe000

/-- The four hexadecimal digits of a code unit. -/
def hex4 (c : UInt16) : List Char :=
  [Nat.digitChar (c.toNat / 4096), Nat.digitChar (c.toNat / 256 % 16), Nat.digitChar (c.toNat / 16 % 16),
    Nat.digitChar (c.toNat % 16)]

/-- A part of a string that becomes one character or one escape. -/
inductive Token
  | unit (c : UInt16)
  | pair (c d : UInt16)
  deriving DecidableEq

/-- The parts of a string. -/
def tokens : JsString → List Token
  | [] => []
  | [c] => [.unit c]
  | c :: d :: rest =>
    if isHigh c && isLow d then .pair c d :: tokens rest else .unit c :: tokens (d :: rest)

/-- The code units of a part of a string. -/
def Token.units : Token → JsString
  | .unit c => [c]
  | .pair c d => [c, d]

/-- The two code units of a pair belong together. -/
def Token.Valid : Token → Prop
  | .unit _ => True
  | .pair c d => isHigh c ∧ isLow d

/-- The text of a part of a string. -/
def Token.text : Token → List Char
  | .unit c =>
    match shortEscapes.find? fun e => e.1 == c with
    | some e => ['\\', e.2]
    | none =>
      if c.toNat < 0x20 || isHigh c || isLow c then '\\' :: 'u' :: hex4 c else [Char.ofNat c.toNat]
  | .pair c d => [Char.ofNat (0x10000 + (c.toNat - 0xd800) * 0x400 + (d.toNat - 0xdc00))]

/-- The text of a string, in quotation marks. -/
def quote (s : JsString) : List Char := '"' :: ((tokens s).flatMap Token.text ++ ['"'])

/-- The parts of a string make up the string. -/
theorem flatMap_units_tokens (s : JsString) : (tokens s).flatMap Token.units = s := by
  induction s using tokens.induct with
  | case1 => rfl
  | case2 c => rfl
  | case3 c d rest h ih => simp [tokens, h, Token.units, ih]
  | case4 c d rest h ih => simp [tokens, h, Token.units, ih]

/-- The tokens of a text are well-formed. -/
theorem tokens_valid (s : JsString) : ∀ t ∈ tokens s, t.Valid := by
  induction s using tokens.induct with
  | case1 => simp [tokens]
  | case2 c => simp [tokens, Token.Valid]
  | case3 c d rest h ih =>
    rw [tokens, if_pos h, List.forall_mem_cons]
    exact ⟨Bool.and_eq_true_iff.mp h, ih⟩
  | case4 c d rest h ih =>
    rw [tokens, if_neg h, List.forall_mem_cons]
    exact ⟨trivial, ih⟩

/-! ## Reading a string back -/

/-- The value of a hexadecimal digit. -/
def hexValue (x : Char) : ℕ := (List.range 16).findIdx fun d => Nat.digitChar d == x

/-- The part of a string that a character stands for. -/
def Token.ofChar (x : Char) : Token :=
  if x.toNat < 0x10000 then .unit (.ofNat x.toNat)
  else .pair (.ofNat (0xd800 + (x.toNat - 0x10000) / 0x400)) (.ofNat (0xdc00 + (x.toNat - 0x10000) % 0x400))

/-- Read four hexadecimal digits. -/
def readHex : List Char → Option (Token × List Char)
  | a :: b :: c :: d :: rest =>
    some (.unit (.ofNat (hexValue a * 4096 + hexValue b * 256 + hexValue c * 16 + hexValue d)), rest)
  | _ => none

/-- Read what follows a backslash. -/
def readEscape : List Char → Option (Token × List Char)
  | [] => none
  | x :: rest =>
    if x = 'u' then readHex rest
    else (shortEscapes.find? fun e => e.2 == x).map fun e => (.unit e.1, rest)

/-- Read the first part of a string off its text. -/
def readToken : List Char → Option (Token × List Char)
  | [] => none
  | x :: rest => if x = '\\' then readEscape rest else some (Token.ofChar x, rest)

/-- A digit that is written is read as its value. -/
theorem hexValue_digitChar {d : ℕ} (h : d < 16) : hexValue (Nat.digitChar d) = d := by
  revert d
  decide

/-- What is written as four hexadecimal digits is read back. -/
theorem readHex_hex4 (c : UInt16) (rest : List Char) : readHex (hex4 c ++ rest) = some (.unit c, rest) := by
  have hlt := c.toNat_lt
  have hc : c.toNat / 4096 * 4096 + c.toNat / 256 % 16 * 256 + c.toNat / 16 % 16 * 16 + c.toNat % 16 = c.toNat := by
    omega
  simp only [hex4, readHex, List.cons_append, List.nil_append]
  rw [hexValue_digitChar (by omega), hexValue_digitChar (by omega), hexValue_digitChar (by omega),
    hexValue_digitChar (by omega), hc, UInt16.ofNat_toNat]

/-- An escape of its own stands for its code unit only. -/
theorem readEscape_short {e : UInt16 × Char} (h : e ∈ shortEscapes) (rest : List Char) :
    readEscape (e.2 :: rest) = some (.unit e.1, rest) := by
  have hall : ∀ e ∈ shortEscapes, e.2 ≠ 'u' ∧ (shortEscapes.find? fun e' => e'.2 == e.2) = some e := by decide
  obtain ⟨hu, hfind⟩ := hall e h
  rw [readEscape, if_neg hu, hfind, Option.map_some]

/-- A character has the code that it is made of. -/
theorem toNat_ofNat {n : ℕ} (h : n.isValidChar) : (Char.ofNat n).toNat = n := by
  rw [Char.ofNat, dif_pos h]
  rfl

/-- A code unit outside the surrogates is read off its character. -/
theorem readToken_char {c : UInt16} (hescape : c.toNat ≠ 0x5c) (hhigh : isHigh c = false) (hlow : isLow c = false)
    (rest : List Char) : readToken (Char.ofNat c.toNat :: rest) = some (.unit c, rest) := by
  have hlt := c.toNat_lt
  have hvalid : c.toNat.isValidChar := by
    simp only [isHigh, isLow, Bool.and_eq_false_iff, decide_eq_false_iff_not] at hhigh hlow
    simp only [Nat.isValidChar]
    omega
  have hne : Char.ofNat c.toNat ≠ '\\' := by
    intro h
    apply hescape
    rw [← toNat_ofNat hvalid, h]
    rfl
  rw [readToken, if_neg hne, Token.ofChar, toNat_ofNat hvalid, if_pos hlt, UInt16.ofNat_toNat]

/-- A pair of surrogates is read off its character. -/
theorem readToken_pair {c d : UInt16} (hc : isHigh c) (hd : isLow d) (rest : List Char) :
    readToken (Char.ofNat (0x10000 + (c.toNat - 0xd800) * 0x400 + (d.toNat - 0xdc00)) :: rest) =
      some (.pair c d, rest) := by
  simp only [isHigh, isLow, Bool.and_eq_true, decide_eq_true_eq] at hc hd
  have hvalid : (0x10000 + (c.toNat - 0xd800) * 0x400 + (d.toNat - 0xdc00)).isValidChar := by
    simp only [Nat.isValidChar]
    omega
  have hne : Char.ofNat (0x10000 + (c.toNat - 0xd800) * 0x400 + (d.toNat - 0xdc00)) ≠ '\\' := by
    intro h
    have hnat := congrArg Char.toNat h
    rw [toNat_ofNat hvalid] at hnat
    have hback : '\\'.toNat = 0x5c := rfl
    omega
  have hfirst : 0xd800 +
      (0x10000 + (c.toNat - 0xd800) * 0x400 + (d.toNat - 0xdc00) - 0x10000) / 0x400 = c.toNat := by
    omega
  have hsecond : 0xdc00 +
      (0x10000 + (c.toNat - 0xd800) * 0x400 + (d.toNat - 0xdc00) - 0x10000) % 0x400 = d.toNat := by
    omega
  rw [readToken, if_neg hne, Token.ofChar, toNat_ofNat hvalid, if_neg (by omega), hfirst, hsecond,
    UInt16.ofNat_toNat, UInt16.ofNat_toNat]

/-- Each part of a string can be read off its text, whatever follows. -/
theorem readToken_text {t : Token} (ht : t.Valid) (rest : List Char) :
    readToken (t.text ++ rest) = some (t, rest) := by
  cases t with
  | unit c =>
    rw [Token.text]
    cases hshort : shortEscapes.find? fun e => e.1 == c with
    | some e =>
      have hc : e.1 = c := by simpa using List.find?_some hshort
      rw [← hc]
      exact readEscape_short (List.mem_of_find?_eq_some hshort) rest
    | none =>
      dsimp only
      split
      · exact readHex_hex4 c rest
      · next h =>
        simp only [Bool.or_eq_true, decide_eq_true_eq, not_or, Bool.not_eq_true] at h
        apply readToken_char _ h.1.2 h.2
        intro hc
        have hback : c = 0x5c := UInt16.toNat_inj.mp hc
        rw [hback] at hshort
        cases hshort
  | pair c d => exact readToken_pair ht.1 ht.2 rest

/-- The text of a part of a string does not start with a quotation mark. -/
theorem Token.text_head {t : Token} (ht : t.Valid) : ∃ x rest, t.text = x :: rest ∧ x ≠ '"' := by
  have hread := readToken_text ht []
  rw [List.append_nil] at hread
  cases htext : t.text with
  | nil =>
    rw [htext] at hread
    cases hread
  | cons x rest =>
    refine ⟨x, rest, rfl, ?_⟩
    intro hx
    rw [htext, hx, readToken, if_neg (by decide)] at hread
    obtain ⟨rfl, _⟩ := Prod.mk.inj (Option.some.inj hread)
    have hescaped : (Token.ofChar '"').text = ['\\', '"'] := by decide
    rw [hescaped, hx] at htext
    exact absurd (List.cons.inj htext).1 (by decide)

/-- The parts of a string can be read off their text up to the closing quotation mark. -/
theorem flatMap_text_inj : ∀ {ts us : List Token} {k k' : List Char}, (∀ t ∈ ts, t.Valid) → (∀ u ∈ us, u.Valid) →
    ts.flatMap Token.text ++ '"' :: k = us.flatMap Token.text ++ '"' :: k' → ts = us ∧ k = k'
  | [], [], k, k', _, _, h => ⟨rfl, (List.cons.inj h).2⟩
  | [], u :: us, k, k', _, hus, h => by
    obtain ⟨x, rest, htext, hne⟩ := Token.text_head (hus u List.mem_cons_self)
    rw [List.flatMap_nil, List.flatMap_cons, htext] at h
    exact absurd (List.cons.inj h).1.symm hne
  | t :: ts, [], k, k', hts, _, h => by
    obtain ⟨x, rest, htext, hne⟩ := Token.text_head (hts t List.mem_cons_self)
    rw [List.flatMap_nil, List.flatMap_cons, htext] at h
    exact absurd (List.cons.inj h).1 hne
  | t :: ts, u :: us, k, k', hts, hus, h => by
    rw [List.flatMap_cons, List.flatMap_cons, List.append_assoc, List.append_assoc] at h
    have hread := congrArg readToken h
    rw [readToken_text (hts t List.mem_cons_self), readToken_text (hus u List.mem_cons_self)] at hread
    obtain ⟨rfl, hrest⟩ := Prod.mk.inj (Option.some.inj hread)
    obtain ⟨rfl, hk⟩ := flatMap_text_inj (fun t ht => hts t (List.mem_cons_of_mem _ ht))
      (fun u hu => hus u (List.mem_cons_of_mem _ hu)) hrest
    exact ⟨rfl, hk⟩

/-- A string can be read off its text, whatever follows. -/
theorem quote_inj {s s' : JsString} {k k' : List Char} (h : quote s ++ k = quote s' ++ k') : s = s' ∧ k = k' := by
  simp only [quote, List.cons_append, List.append_assoc, List.nil_append, List.cons.injEq, true_and] at h
  obtain ⟨htokens, hk⟩ := flatMap_text_inj (tokens_valid s) (tokens_valid s') h
  rw [← flatMap_units_tokens s, ← flatMap_units_tokens s', htokens]
  exact ⟨rfl, hk⟩

/-! ## Values -/

/-- The characters that the text of a number is made of. -/
def isNumeric (c : Char) : Bool := c.isDigit || ['-', '+', '.', 'e'].contains c

/-- How numbers are written: each in its own way, with the characters of numbers. -/
structure NumberText (Num : Type) where
  text : Num → List Char
  injective : Function.Injective text
  ne_nil : ∀ n, text n ≠ []
  numeric : ∀ n, ∀ c ∈ text n, isNumeric c

/-- Texts with commas between them and a closing character after them. -/
def joined (close : Char) : List (List Char) → List Char
  | [] => [close]
  | [t] => t ++ [close]
  | t :: u :: ts => t ++ ',' :: joined close (u :: ts)

section Stringify

variable {Num : Type} (numbers : NumberText Num)

mutual

/-- The text of a value, with the entries of its objects in the order in which they are stored. -/
def stringify : Value JsString Num → List Char
  | .null => ['n', 'u', 'l', 'l']
  | .bool true => ['t', 'r', 'u', 'e']
  | .bool false => ['f', 'a', 'l', 's', 'e']
  | .num n => numbers.text n
  | .str s => quote s
  | .arr items => '[' :: joined ']' (stringifyItems items)
  | .obj entries => '\x7b' :: joined '\x7d' (stringifyEntries entries)

/-- The texts of the items of an array. -/
def stringifyItems : List (Value JsString Num) → List (List Char)
  | [] => []
  | v :: items => stringify v :: stringifyItems items

/-- The texts of the entries of an object. -/
def stringifyEntries : List (JsString × Value JsString Num) → List (List Char)
  | [] => []
  | (k, v) :: entries => (quote k ++ ':' :: stringify v) :: stringifyEntries entries

end

/-- The text of an entry. -/
def stringifyEntry (e : JsString × Value JsString Num) : List Char := quote e.1 ++ ':' :: stringify numbers e.2

/-- The items of a list are written one by one. -/
theorem stringifyItems_eq (items : List (Value JsString Num)) :
    stringifyItems numbers items = items.map (stringify numbers) := by
  induction items with
  | nil => rw [stringifyItems, List.map_nil]
  | cons v items ih => rw [stringifyItems, ih, List.map_cons]

/-- The entries of an object are written one by one. -/
theorem stringifyEntries_eq (entries : List (JsString × Value JsString Num)) :
    stringifyEntries numbers entries = entries.map (stringifyEntry numbers) := by
  induction entries with
  | nil => rw [stringifyEntries, List.map_nil]
  | cons e entries ih =>
    rw [stringifyEntries, ih, List.map_cons]
    rfl

/-- What may follow the text of a value: nothing, or a comma or a closing bracket. -/
def Delimited (k : List Char) : Prop := ∀ c ∈ k.head?, c = ',' ∨ c = ']' ∨ c = '\x7d'

/-- A comma and a closing bracket delimit a number. -/
theorem Delimited.cons {c : Char} (h : c = ',' ∨ c = ']' ∨ c = '\x7d') (k : List Char) : Delimited (c :: k) := by
  intro d hd
  rw [← Option.some.inj hd]
  exact h

/-- A list of texts is its first one, a comma, and the rest. -/
theorem joined_cons (close : Char) (t : List Char) (ts : List (List Char)) :
    joined close (t :: ts) = t ++ match ts with
      | [] => [close]
      | u :: us => ',' :: joined close (u :: us) := by
  cases ts <;> rfl

/-- A text can be read off whatever may follow it. -/
def Readable {α : Type} (enc : α → List Char) (x : α) : Prop :=
  ∀ y k k', Delimited k → Delimited k' → enc x ++ k = enc y ++ k' → x = y ∧ k = k'

/-- Joined texts can be read off if each of them can. -/
theorem joined_inj {α : Type} {enc : α → List Char} {close : Char} (hclose : close = ']' ∨ close = '\x7d')
    (hstart : ∀ x, ∃ c rest, enc x = c :: rest ∧ c ≠ close) :
    ∀ {xs ys : List α} {k k' : List Char}, (∀ x ∈ xs, Readable enc x) →
      joined close (xs.map enc) ++ k = joined close (ys.map enc) ++ k' → xs = ys ∧ k = k'
  | [], [], k, k', _, h => ⟨rfl, (List.cons.inj h).2⟩
  | [], y :: ys, k, k', _, h => by
    obtain ⟨c, rest, hc, hne⟩ := hstart y
    rw [List.map_nil, List.map_cons, joined_cons, hc] at h
    exact absurd (List.cons.inj h).1.symm hne
  | x :: xs, [], k, k', _, h => by
    obtain ⟨c, rest, hc, hne⟩ := hstart x
    rw [List.map_nil, List.map_cons, joined_cons, hc] at h
    exact absurd (List.cons.inj h).1 hne
  | x :: xs, y :: ys, k, k', hxs, h => by
    have hcomma : close ≠ ',' := by
      rintro rfl
      exact absurd hclose (by decide)
    rw [List.map_cons, List.map_cons, joined_cons, joined_cons, List.append_assoc, List.append_assoc] at h
    have hdelimited (zs : List α) (k : List Char) : Delimited ((match zs.map enc with
        | [] => [close]
        | u :: us => ',' :: joined close (u :: us)) ++ k) := by
      cases zs with
      | nil => exact .cons (.inr hclose) k
      | cons z zs => exact .cons (.inl rfl) _
    obtain ⟨rfl, hrest⟩ := hxs x List.mem_cons_self y _ _ (hdelimited xs k) (hdelimited ys k') h
    cases xs with
    | nil =>
      cases ys with
      | nil => exact ⟨rfl, (List.cons.inj hrest).2⟩
      | cons z zs => exact absurd (List.cons.inj hrest).1 hcomma
    | cons w ws =>
      cases ys with
      | nil => exact absurd (List.cons.inj hrest).1.symm hcomma
      | cons z zs =>
        have hrest : joined close ((w :: ws).map enc) ++ k = joined close ((z :: zs).map enc) ++ k' :=
          (List.cons.inj hrest).2
        obtain ⟨hlists, hk⟩ := joined_inj hclose hstart (fun v hv => hxs v (List.mem_cons_of_mem _ hv)) hrest
        exact ⟨congrArg (List.cons x) hlists, hk⟩

/-- The kind of a value, apart from the two truth values. -/
def Value.kind : Value JsString Num → ℕ
  | .null => 0
  | .bool true => 1
  | .bool false => 2
  | .num _ => 3
  | .str _ => 4
  | .arr _ => 5
  | .obj _ => 6

/-- The kind of value that a character begins. -/
def kindOf (c : Char) : Option ℕ :=
  if isNumeric c then some 3 else [('n', 0), ('t', 1), ('f', 2), ('"', 4), ('[', 5), ('\x7b', 6)].lookup c

/-- The first character of a text tells the kind of its value. -/
theorem stringify_head (v : Value JsString Num) :
    ∃ c rest, stringify numbers v = c :: rest ∧ kindOf c = some v.kind := by
  cases v with
  | null => exact ⟨_, _, by rw [stringify], rfl⟩
  | bool b => cases b <;> exact ⟨_, _, by rw [stringify], rfl⟩
  | num n =>
    cases htext : numbers.text n with
    | nil => exact absurd htext (numbers.ne_nil n)
    | cons c rest =>
      have hc : isNumeric c := numbers.numeric n c (by rw [htext]; exact List.mem_cons_self)
      exact ⟨c, rest, by rw [stringify, htext], if_pos hc⟩
  | str s => exact ⟨_, _, by rw [stringify, quote], rfl⟩
  | arr items => exact ⟨_, _, by rw [stringify], rfl⟩
  | obj entries => exact ⟨_, _, by rw [stringify], rfl⟩

/-- A number can be read off up to the first character that no number is made of. -/
theorem takeWhile_number (n : Num) {k : List Char} (hk : Delimited k) :
    (numbers.text n ++ k).takeWhile isNumeric = numbers.text n := by
  rw [List.takeWhile_append_of_pos (numbers.numeric n)]
  cases k with
  | nil => rw [List.takeWhile_nil, List.append_nil]
  | cons c k =>
    have hc : isNumeric c = false := by
      rcases hk c rfl with rfl | rfl | rfl <;> decide
    rw [List.takeWhile_cons, hc]
    exact List.append_nil _

/-- A text that begins a value does not close a bracket. -/
theorem ne_of_kindOf {c : Char} {i : ℕ} (h : kindOf c = some i) : c ≠ ']' ∧ c ≠ '\x7d' := by
  have hbracket : kindOf ']' = none := by decide
  have hbrace : kindOf '\x7d' = none := by decide
  constructor
  · intro hc
    rw [hc, hbracket] at h
    cases h
  · intro hc
    rw [hc, hbrace] at h
    cases h

/-- Values whose texts begin alike are of one kind. -/
theorem kind_of_text {v w : Value JsString Num} {k k' : List Char}
    (h : stringify numbers v ++ k = stringify numbers w ++ k') : v.kind = w.kind := by
  obtain ⟨c, rest, hv, hc⟩ := stringify_head numbers v
  obtain ⟨d, rest', hw, hd⟩ := stringify_head numbers w
  rw [hv, hw] at h
  rw [(List.cons.inj h).1, hd] at hc
  exact (Option.some.inj hc).symm

/-- A value does not begin with a closing bracket. -/
theorem items_start (v : Value JsString Num) : ∃ c rest, stringify numbers v = c :: rest ∧ c ≠ ']' := by
  obtain ⟨c, rest, hv, hc⟩ := stringify_head numbers v
  exact ⟨c, rest, hv, (ne_of_kindOf hc).1⟩

/-- An entry does not begin with a closing brace. -/
theorem entries_start (e : JsString × Value JsString Num) :
    ∃ c rest, stringifyEntry numbers e = c :: rest ∧ c ≠ '\x7d' :=
  ⟨_, _, by rw [stringifyEntry, quote, List.cons_append], by decide⟩

/-- An entry can be read off its text if its value can. -/
theorem entry_readable {e : JsString × Value JsString Num} (he : Readable (stringify numbers) e.2) :
    Readable (stringifyEntry numbers) e := by
  intro e' k k' hk hk' h
  rw [stringifyEntry, stringifyEntry, List.append_assoc, List.append_assoc] at h
  obtain ⟨hkey, hrest⟩ := quote_inj h
  obtain ⟨hvalue, hk⟩ := he e'.2 k k' hk hk' (List.cons.inj hrest).2
  exact ⟨Prod.ext hkey hvalue, hk⟩

/-- Every value can be read off its text. -/
theorem stringify_readable (v : Value JsString Num) : Readable (stringify numbers) v := by
  induction v using Value.induct with
  | null =>
    intro w k k' _ _ h
    have hkind := kind_of_text numbers h
    cases w with
    | null => exact ⟨rfl, List.append_cancel_left h⟩
    | bool b => cases b <;> simp [Value.kind] at hkind
    | _ => simp [Value.kind] at hkind
  | bool b =>
    intro w k k' _ _ h
    have hkind := kind_of_text numbers h
    cases w with
    | bool b' =>
      have hb : b = b' := by
        revert hkind
        cases b <;> cases b' <;> simp [Value.kind]
      subst hb
      exact ⟨rfl, List.append_cancel_left h⟩
    | _ => cases b <;> simp [Value.kind] at hkind
  | num n =>
    intro w k k' hk hk' h
    have hkind := kind_of_text numbers h
    cases w with
    | num n' =>
      rw [stringify, stringify] at h
      have htext := congrArg (List.takeWhile isNumeric) h
      rw [takeWhile_number numbers n hk, takeWhile_number numbers n' hk'] at htext
      rw [htext] at h
      exact ⟨congrArg Value.num (numbers.injective htext), List.append_cancel_left h⟩
    | bool b => cases b <;> simp [Value.kind] at hkind
    | _ => simp [Value.kind] at hkind
  | str s =>
    intro w k k' _ _ h
    have hkind := kind_of_text numbers h
    cases w with
    | str s' =>
      rw [stringify, stringify] at h
      obtain ⟨rfl, hk⟩ := quote_inj h
      exact ⟨rfl, hk⟩
    | bool b => cases b <;> simp [Value.kind] at hkind
    | _ => simp [Value.kind] at hkind
  | arr items ih =>
    intro w k k' _ _ h
    have hkind := kind_of_text numbers h
    cases w with
    | arr items' =>
      rw [stringify, stringify, stringifyItems_eq, stringifyItems_eq] at h
      obtain ⟨rfl, hk⟩ := joined_inj (.inl rfl) (items_start numbers) ih (List.cons.inj h).2
      exact ⟨rfl, hk⟩
    | bool b => cases b <;> simp [Value.kind] at hkind
    | _ => simp [Value.kind] at hkind
  | obj entries ih =>
    intro w k k' _ _ h
    have hkind := kind_of_text numbers h
    cases w with
    | obj entries' =>
      rw [stringify, stringify, stringifyEntries_eq, stringifyEntries_eq] at h
      obtain ⟨rfl, hk⟩ := joined_inj (.inr rfl) (entries_start numbers)
        (fun e he => entry_readable numbers (ih e he)) (List.cons.inj h).2
      exact ⟨rfl, hk⟩
    | bool b => cases b <;> simp [Value.kind] at hkind
    | _ => simp [Value.kind] at hkind

/-- Different values have different texts. -/
theorem stringify_injective : Function.Injective (stringify numbers) := by
  intro v w h
  have hnil : Delimited [] := fun c hc => by cases hc
  have happend : stringify numbers v ++ [] = stringify numbers w ++ [] := by rw [h]
  exact (stringify_readable numbers v w [] [] hnil hnil happend).1

end Stringify

end Json
