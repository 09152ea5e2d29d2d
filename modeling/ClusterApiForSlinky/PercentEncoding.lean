import ClusterApiForSlinky.Text

/-!
`urllib.parse.quote` and `unquote_to_bytes`. Quoting is undone by unquoting, so
a text that was quoted before is another text when it is quoted again.
-/

namespace ClusterApiForSlinky.PercentEncoding
open Text (hexDigit hexDigits hexValue highDigit lowDigit hexDigit_mem hexValue_upper digits_of_byte)

/-- The characters `quote` leaves as they are. -/
def isSafe (char : Char) : Bool :=
  char.isAlphanum || char == '_' || char == '.' || char == '-' || char == '~' || char == '/'

def escape (byte : UInt8) : List Char :=
  ['%', (hexDigit (highDigit byte.toNat)).toUpper, (hexDigit (lowDigit byte.toNat)).toUpper]

def quoteChar (char : Char) : List Char :=
  if isSafe char then [char] else (String.utf8EncodeChar char).flatMap escape

def quote (text : List Char) : List Char := text.flatMap quoteChar

def utf8 (text : List Char) : List UInt8 := text.flatMap String.utf8EncodeChar

def isEscape (high low : Char) : Bool := (hexValue high).isSome && (hexValue low).isSome

/-- `unquote_to_bytes` -/
def unquote : List Char → List UInt8
  | [] => []
  | [char] => String.utf8EncodeChar char
  | [char, next] => String.utf8EncodeChar char ++ unquote [next]
  | char :: high :: low :: rest =>
      if char = '%' ∧ isEscape high low = true then
        UInt8.ofNat ((hexValue high).elim 0 Fin.val * 16 + (hexValue low).elim 0 Fin.val) ::
          unquote rest
      else String.utf8EncodeChar char ++ unquote (high :: low :: rest)

/-- Some percent sign is followed by two hexadecimal digits. -/
def escaped : List Char → Bool
  | char :: high :: low :: rest =>
      (char == '%' && isEscape high low) || escaped (high :: low :: rest)
  | _ => false

theorem unquote_plain (char : Char) (rest : List Char) (plain : char ≠ '%') :
    unquote (char :: rest) = String.utf8EncodeChar char ++ unquote rest := by
  match rest with
  | [] => rw [unquote, unquote, List.append_nil]
  | [next] => rfl
  | high :: low :: rest =>
      rw [unquote, if_neg (fun both => plain both.1)]

theorem unquote_escape (byte : UInt8) (rest : List Char) :
    unquote (escape byte ++ rest) = byte :: unquote rest := by
  have bound : byte.toNat < 256 := UInt8.toNat_lt_size byte
  have both : isEscape (hexDigit (highDigit byte.toNat)).toUpper
      (hexDigit (lowDigit byte.toNat)).toUpper = true := by
    rw [isEscape, hexValue_upper, hexValue_upper]
    rfl
  rw [escape, List.cons_append, List.cons_append, List.cons_append, List.nil_append, unquote,
    if_pos ⟨rfl, both⟩, hexValue_upper, hexValue_upper, Option.elim_some, Option.elim_some,
    digits_of_byte byte.toNat bound, UInt8.ofNat_toNat]

theorem unquote_escapes (bytes : List UInt8) (rest : List Char) :
    unquote (bytes.flatMap escape ++ rest) = bytes ++ unquote rest := by
  induction bytes with
  | nil => rfl
  | cons byte others ih =>
      rw [List.flatMap_cons, List.append_assoc, unquote_escape, ih, List.cons_append]

theorem ne_percent_of_safe (char : Char) (safe : isSafe char = true) : char ≠ '%' := by
  rintro rfl
  revert safe
  decide

/-- Every text is read back from its quoted form. -/
theorem unquote_quote (text : List Char) : unquote (quote text) = utf8 text := by
  induction text with
  | nil => rw [quote, List.flatMap_nil, unquote, utf8, List.flatMap_nil]
  | cons char rest ih =>
      rw [quote] at ih
      rw [quote, List.flatMap_cons, quoteChar, utf8, List.flatMap_cons, ← utf8, ← ih]
      split
      · next safe =>
          rw [List.singleton_append, unquote_plain char _ (ne_percent_of_safe char safe)]
      · exact unquote_escapes _ _

theorem utf8_filled (char : Char) : 0 < (String.utf8EncodeChar char).length := by
  rw [String.length_utf8EncodeChar]
  exact Char.utf8Size_pos char

/-- Every escape makes the bytes fewer than those of the text. -/
theorem length_unquote (text : List Char) :
    (unquote text).length ≤ (utf8 text).length ∧
      (escaped text = true → (unquote text).length < (utf8 text).length) := by
  induction text using unquote.induct with
  | case1 => simp [unquote, utf8, escaped]
  | case2 char => simp [unquote, utf8, escaped]
  | case3 char next ih => simp [unquote, utf8, escaped]
  | case4 char high low rest here ih =>
      have room := utf8_filled char
      have second := utf8_filled high
      have third := utf8_filled low
      obtain ⟨shorter, -⟩ := ih
      rw [unquote, if_pos here]
      simp only [utf8, List.flatMap_cons, List.length_append, List.length_cons] at shorter ⊢
      omega
  | case5 char high low rest elsewhere ih =>
      obtain ⟨shorter, strict⟩ := ih
      have later : escaped (char :: high :: low :: rest) = escaped (high :: low :: rest) := by
        have plain : (char == '%' && isEscape high low) = false := by
          simpa using elsewhere
        rw [escaped, plain, Bool.false_or]
      rw [unquote, if_neg elsewhere, later, utf8, List.flatMap_cons, ← utf8]
      simp only [List.length_append]
      exact ⟨Nat.add_le_add_left shorter _, fun found => Nat.add_lt_add_left (strict found) _⟩

theorem unquote_of_not_escaped (text : List Char) (plain : escaped text = false) :
    unquote text = utf8 text := by
  induction text using unquote.induct with
  | case1 => rfl
  | case2 char => simp [unquote, utf8]
  | case3 char next ih => simp [unquote, utf8]
  | case4 char high low rest here ih =>
      have found : escaped (char :: high :: low :: rest) = true := by
        simp [escaped, here]
      rw [plain] at found
      cases found
  | case5 char high low rest elsewhere ih =>
      rw [escaped, Bool.or_eq_false_iff] at plain
      rw [unquote, if_neg elsewhere, ih plain.2]
      rfl

/-- A text is unquoted to itself when nothing in it is escaped. -/
theorem unquote_eq_iff (text : List Char) : unquote text = utf8 text ↔ escaped text = false := by
  constructor
  · intro same
    by_contra found
    have shorter := (length_unquote text).2 (by simpa using found)
    rw [same] at shorter
    exact Nat.lt_irrefl _ shorter
  · exact unquote_of_not_escaped text

theorem length_quoteChar (char : Char) :
    1 ≤ (quoteChar char).length ∧ (isSafe char = false → 1 < (quoteChar char).length) := by
  rw [quoteChar]
  split
  · next safe => simp [safe]
  · cases bytes : String.utf8EncodeChar char with
    | nil =>
        have filled := utf8_filled char
        simp [bytes] at filled
    | cons byte rest => simp [escape]

theorem length_le_quote (text : List Char) : text.length ≤ (quote text).length := by
  induction text with
  | nil => exact Nat.le_refl _
  | cons char rest ih =>
      have one := (length_quoteChar char).1
      rw [quote] at ih
      rw [quote, List.flatMap_cons, List.length_append, List.length_cons]
      omega

/-- Only safe characters are quoted by themselves. -/
theorem quote_eq_iff (text : List Char) :
    quote text = text ↔ ∀ char ∈ text, isSafe char = true := by
  constructor
  · intro same
    induction text with
    | nil => exact nofun
    | cons char rest ih =>
        have one := length_quoteChar char
        have others := length_le_quote rest
        have sizes := congrArg List.length same
        rw [quote, List.flatMap_cons, ← quote, List.length_append, List.length_cons] at sizes
        have safe : isSafe char = true := by
          by_contra reserved
          have longer := one.2 (by simpa using reserved)
          omega
        rw [quote, List.flatMap_cons, ← quote, quoteChar, if_pos safe] at same
        exact List.forall_mem_cons.mpr ⟨safe, ih (List.cons_inj_right char |>.mp same)⟩
  · intro safe
    induction text with
    | nil => rfl
    | cons char rest ih =>
        obtain ⟨here, later⟩ := List.forall_mem_cons.mp safe
        rw [quote, List.flatMap_cons, ← quote, ih later, quoteChar, if_pos here]
        rfl

theorem mem_quote (text : List Char) (char : Char) (member : char ∈ quote text) :
    char = '%' ∨ char ∈ hexDigits.map Char.toUpper ∨ (isSafe char = true ∧ char ∈ text) := by
  obtain ⟨origin, inside, quoted⟩ := List.mem_flatMap.mp member
  rw [quoteChar] at quoted
  split at quoted
  · next safe =>
      obtain rfl := List.mem_singleton.mp quoted
      exact .inr (.inr ⟨safe, inside⟩)
  · obtain ⟨byte, -, written⟩ := List.mem_flatMap.mp quoted
    simp only [escape, List.mem_cons, List.not_mem_nil, or_false] at written
    rcases written with rfl | rfl | rfl
    · exact .inl rfl
    · exact .inr (.inl (List.mem_map_of_mem (hexDigit_mem _)))
    · exact .inr (.inl (List.mem_map_of_mem (hexDigit_mem _)))

end ClusterApiForSlinky.PercentEncoding
