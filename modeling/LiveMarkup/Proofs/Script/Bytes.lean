import LiveMarkup.Proofs.Script.Rereading
import Mathlib.Data.String.Basic

/-!
# Scanning the bytes of a text

A text is read by its bytes, and what is said of it by its characters. In UTF-8 the bytes of a
character outside ASCII are no ASCII characters, so the scanners pass them one by one, and a
backslash that takes the first one along leaves bytes that are passed (`over_wide`). Each scanner
therefore ends where the one on characters does, between two characters (`scanString_encode`,
`scanRegex_encode`, `scanTemplate_encode`).
-/

set_option autoImplicit false

namespace LiveMarkup.Script

/-! ## Bytes of characters -/

/-- The bytes of a text. -/
def encode (cs : List Char) : List UInt8 := cs.flatMap String.utf8EncodeChar

@[simp] theorem encode_nil : encode [] = [] := rfl

theorem encode_cons (c : Char) (cs : List Char) :
    encode (c :: cs) = String.utf8EncodeChar c ++ encode cs := rfl

theorem encode_append (cs more : List Char) : encode (cs ++ more) = encode cs ++ encode more :=
  List.flatMap_append

theorem toUTF8_eq_encode (s : String) : s.toUTF8.data.toList = encode s.toList := by
  conv_lhs => rw [← String.ofList_toList (s := s)]
  rw [String.toUTF8_eq_toByteArray, String.toByteArray_ofList, List.utf8Encode,
    List.data_toByteArray]
  rfl

/-- A character outside ASCII. -/
def Wide (c : Char) : Prop := 0x80 ≤ c.toNat

theorem byteChar_toNat (b : UInt8) : (byteChar b).toNat = b.toNat := rfl

/-- A character is one byte that is the character, or more bytes that are no ASCII characters. -/
theorem utf8EncodeChar_cases (c : Char) :
    (¬ Wide c ∧ ∃ b, String.utf8EncodeChar c = [b] ∧ byteChar b = c) ∨
      (Wide c ∧ ∃ b more, String.utf8EncodeChar c = b :: more ∧
        Wide (byteChar b) ∧ ∀ d ∈ more, Wide (byteChar d)) := by
  have hwide : ∀ n : Nat, 0x80 ≤ n → n < 0x100 → Wide (byteChar (UInt8.ofNat n)) := by
    intro n hlow hhigh
    unfold Wide
    rw [byteChar_toNat, UInt8.toNat_ofNat', Nat.mod_eq_of_lt (by omega)]
    exact hlow
  by_cases hc : Wide c
  · refine .inr ⟨hc, ?_⟩
    unfold Wide at hc
    have hc' : ¬ c.val.toNat ≤ 127 := by
      have : c.toNat = c.val.toNat := rfl
      omega
    unfold String.utf8EncodeChar
    dsimp only
    rw [if_neg hc']
    split
    · refine ⟨_, _, rfl, hwide _ (by omega) (by omega), ?_⟩
      simp only [List.mem_singleton, forall_eq]
      exact hwide _ (by omega) (by omega)
    split
    · refine ⟨_, _, rfl, hwide _ (by omega) (by omega), ?_⟩
      simp only [List.mem_cons, List.not_mem_nil, or_false, forall_eq_or_imp, forall_eq]
      exact ⟨hwide _ (by omega) (by omega), hwide _ (by omega) (by omega)⟩
    · refine ⟨_, _, rfl, hwide _ (by omega) (by omega), ?_⟩
      simp only [List.mem_cons, List.not_mem_nil, or_false, forall_eq_or_imp, forall_eq]
      exact ⟨hwide _ (by omega) (by omega), hwide _ (by omega) (by omega),
        hwide _ (by omega) (by omega)⟩
  · refine .inl ⟨hc, UInt8.ofNat c.val.toNat, ?_, ?_⟩
    · unfold Wide at hc
      have hc' : c.val.toNat ≤ 127 := by
        have : c.toNat = c.val.toNat := rfl
        omega
      unfold String.utf8EncodeChar
      dsimp only
      rw [if_pos hc']
    · apply Char.toNat_inj.1
      unfold Wide at hc
      have : c.toNat = c.val.toNat := rfl
      rw [byteChar_toNat, UInt8.toNat_ofNat', Nat.mod_eq_of_lt (by omega)]
      exact this.symm

/-! ## Lengths and places -/

theorem byteLength_eq_utf8Len (cs : List Char) : byteLength cs = String.utf8Len cs := by
  have hfrom : ∀ length, cs.foldl (fun length c => length + c.utf8Size) length =
      length + String.utf8Len cs := by
    induction cs with
    | nil => simp
    | cons c rest ih =>
      intro length
      rw [List.foldl_cons, ih, String.utf8Len_cons]
      omega
  rw [byteLength, hfrom, Nat.zero_add]

@[simp] theorem byteLength_nil : byteLength [] = 0 := rfl

@[simp] theorem byteLength_append (cs more : List Char) :
    byteLength (cs ++ more) = byteLength cs + byteLength more := by
  simp only [byteLength_eq_utf8Len, String.utf8Len_append]

theorem byteLength_cons (c : Char) (cs : List Char) :
    byteLength (c :: cs) = c.utf8Size + byteLength cs := by
  rw [byteLength_eq_utf8Len, byteLength_eq_utf8Len, String.utf8Len_cons, Nat.add_comm]

theorem byteLength_toList (s : String) : byteLength s.toList = s.utf8ByteSize := by
  rw [byteLength_eq_utf8Len, String.utf8Len_toList]

theorem length_le_byteLength (cs : List Char) : cs.length ≤ byteLength cs := by
  rw [byteLength_eq_utf8Len]
  induction cs with
  | nil => exact Nat.le_refl 0
  | cons c rest ih =>
    have hc := c.utf8Size_pos
    rw [List.length_cons, String.utf8Len_cons]
    omega

/-- The bytes from the end of `before` over the length of `text` are this text, and they begin and
end where characters do. -/
theorem extract_of_toList_eq {source : String} {before text after : List Char}
    (h : source.toList = before ++ text ++ after) :
    String.Pos.Raw.IsValid source ⟨byteLength before⟩ ∧
      String.Pos.Raw.IsValid source ⟨byteLength before + byteLength text⟩ ∧
      String.Pos.Raw.extract source ⟨byteLength before⟩ ⟨byteLength before + byteLength text⟩ =
        String.ofList text := by
  obtain rfl : source = String.ofList (before ++ text ++ after) := by
    rw [← h, String.ofList_toList]
  have hvalid : ∀ front back : List Char,
      String.Pos.Raw.IsValid (String.ofList (front ++ back)) ⟨byteLength front⟩ := by
    intro front back
    refine String.Pos.Raw.isValid_iff_exists_append.2
      ⟨String.ofList front, String.ofList back, String.ofList_append, ?_⟩
    rw [String.rawEndPos_ofList, byteLength_eq_utf8Len]
  refine ⟨?_, ?_, ?_⟩
  · rw [List.append_assoc]
    exact hvalid before (text ++ after)
  · rw [← byteLength_append]
    exact hvalid (before ++ text) after
  · rw [byteLength_eq_utf8Len, byteLength_eq_utf8Len]
    exact String.extract_of_valid before text after

theorem byteLength_singleton (c : Char) : byteLength [c] = c.utf8Size := by
  rw [byteLength_cons, byteLength_nil, Nat.add_zero]

/-! ## Scanners and characters outside ASCII -/

/-- Where a scanner has got to, if it comes to its end. -/
def cursor? {bytes : List UInt8} (place : Option (Ahead bytes)) : Option Cursor :=
  place.map Ahead.toCursor

/-- The place behind what was read of a text, in bytes. -/
def Split.cursor (pos : Nat) (split : Split) : Cursor :=
  ⟨pos + byteLength split.read, encode split.rest⟩

theorem Split.cursor_prepend (pos : Nat) (cs : List Char) (split : Split) :
    (split.prepend cs).cursor pos = split.cursor (pos + byteLength cs) := by
  simp [Split.cursor, Split.prepend, Nat.add_assoc]

theorem map_cursor_prepend (pos : Nat) (cs : List Char) (split : Option Split) :
    (split.map (Split.prepend cs)).map (Split.cursor pos) =
      split.map (Split.cursor (pos + byteLength cs)) := by
  rw [Option.map_map]
  congr 1
  funext inner
  exact Split.cursor_prepend pos cs inner

/-- A scanner that passes the bytes of characters outside ASCII one by one. -/
def PassesWide {α : Type} (scan : Nat → List UInt8 → α) : Prop :=
  ∀ pos b rest, Wide (byteChar b) → scan pos (b :: rest) = scan (pos + 1) rest

theorem over_wide {α : Type} {scan : Nat → List UInt8 → α} (hstep : PassesWide scan)
    {bytes : List UInt8} (hbytes : ∀ b ∈ bytes, Wide (byteChar b)) (pos : Nat) (rest : List UInt8) :
    scan pos (bytes ++ rest) = scan (pos + bytes.length) rest := by
  induction bytes generalizing pos with
  | nil => rfl
  | cons b bytes ih =>
    rw [List.cons_append, hstep _ _ _ (hbytes b List.mem_cons_self),
      ih fun d hd => hbytes d (List.mem_cons_of_mem _ hd), List.length_cons, Nat.add_right_comm]
    rfl

/-- Such a scanner passes a character outside ASCII. -/
theorem over_char {α : Type} {scan : Nat → List UInt8 → α} (hstep : PassesWide scan)
    {c : Char} (hc : Wide c) (pos : Nat) (cs : List Char) :
    scan pos (encode (c :: cs)) = scan (pos + c.utf8Size) (encode cs) := by
  rcases utf8EncodeChar_cases c with ⟨hascii, -⟩ | ⟨-, b, more, hbytes, hb, hmore⟩
  · exact absurd hc hascii
  · rw [encode_cons, ← String.length_utf8EncodeChar, hbytes]
    exact over_wide hstep (List.forall_mem_cons.2 ⟨hb, hmore⟩) pos _

/-- When it has skipped the first byte of a character, such a scanner passes the others. -/
theorem over_skipped {α : Type} {scan : Nat → List UInt8 → α} (hstep : PassesWide scan)
    (c : Char) : ∃ b more, String.utf8EncodeChar c = b :: more ∧
      ∀ pos rest, scan (pos + 1) (more ++ rest) = scan (pos + c.utf8Size) rest := by
  rcases utf8EncodeChar_cases c with ⟨-, b, hbytes, -⟩ | ⟨-, b, more, hbytes, -, hmore⟩
  · refine ⟨b, [], hbytes, fun pos rest => ?_⟩
    rw [← String.length_utf8EncodeChar, hbytes]
    rfl
  · refine ⟨b, more, hbytes, fun pos rest => ?_⟩
    rw [over_wide hstep hmore, ← String.length_utf8EncodeChar, hbytes, List.length_cons,
      Nat.add_assoc, Nat.add_comm 1]

theorem encode_ascii {c : Char} (hc : ¬ Wide c) : ∃ b, byteChar b = c ∧ c.utf8Size = 1 ∧
    ∀ cs, encode (c :: cs) = b :: encode cs := by
  rcases utf8EncodeChar_cases c with ⟨-, b, hbytes, hb⟩ | ⟨hwide, -⟩
  · refine ⟨b, hb, ?_, fun cs => ?_⟩
    · rw [← String.length_utf8EncodeChar, hbytes]
      rfl
    · rw [encode_cons, hbytes]
      rfl
  · exact absurd hwide hc

theorem Wide.ne {c d : Char} (hc : Wide c) (hd : ¬ Wide d) : c ≠ d := fun h => hd (h ▸ hc)

instance (c : Char) : Decidable (Wide c) := inferInstanceAs (Decidable (_ ≤ _))

theorem Wide.isLineBreak {c : Char} (hc : Wide c) : isLineBreak c = false := by
  simp [LiveMarkup.Script.isLineBreak, hc.ne (d := '\n') (by decide), hc.ne (d := '\r') (by decide)]

theorem not_wide_of_isAlphanum {c : Char} (h : c.isAlphanum = true) : ¬ Wide c := by
  have hbelow : ∀ last : Char, last.toNat < 0x80 → c.val ≤ last.val → ¬ Wide c := by
    intro last hlast hle hwide
    have hle' : c.toNat ≤ last.toNat := UInt32.le_iff_toNat_le.1 hle
    unfold Wide at hwide
    omega
  rcases Bool.or_eq_true_iff.1 h with hletter | hdigit
  · rcases Bool.or_eq_true_iff.1 hletter with hupper | hlower
    · exact hbelow 'Z' (by decide) (And.right (of_decide_eq_true hupper))
    · exact hbelow 'z' (by decide) (of_decide_eq_true (Bool.and_eq_true_iff.1 hlower).2)
  · exact hbelow '9' (by decide) (of_decide_eq_true (Bool.and_eq_true_iff.1 hdigit).2)

theorem Wide.isAlphanum {c : Char} (hc : Wide c) : c.isAlphanum = false :=
  Bool.eq_false_iff.2 fun h => not_wide_of_isAlphanum h hc

theorem Wide.isAlpha {c : Char} (hc : Wide c) : c.isAlpha = false :=
  (Bool.or_eq_false_iff.1 hc.isAlphanum).1

theorem Wide.isDigit {c : Char} (hc : Wide c) : c.isDigit = false :=
  (Bool.or_eq_false_iff.1 hc.isAlphanum).2

theorem Wide.isWordChar {c : Char} (hc : Wide c) : isWordChar c = true :=
  Bool.or_eq_true_iff.2 (.inr (decide_eq_true hc))

theorem Wide.isBlank {c : Char} (hc : Wide c) : isBlank c = false := by
  simp [LiveMarkup.Script.isBlank, hc.isLineBreak, hc.ne (d := ' ') (by decide),
    hc.ne (d := '\t') (by decide), hc.ne (d := '\x0c') (by decide)]

/-! ## Strings -/

theorem scanString_cons (quote : Char) (pos : Nat) (b : UInt8) (rest : List UInt8) :
    cursor? (scanString quote pos (b :: rest)) =
      if byteChar b = '\\' then
        match rest with
        | [] => none
        | _ :: more => cursor? (scanString quote (pos + 2) more)
      else if isLineBreak (byteChar b) then none
      else if byteChar b = quote then some ⟨pos + 1, rest⟩
      else cursor? (scanString quote (pos + 1) rest) := by
  rw [scanString.eq_def]
  dsimp only
  split
  · cases rest with
    | nil => rfl
    | cons d more => exact Option.map_map ..
  split
  · rfl
  split
  · rfl
  · exact Option.map_map ..

theorem scanString_wide {quote : Char} (hquote : ¬ Wide quote) :
    PassesWide fun pos bytes => cursor? (scanString quote pos bytes) := by
  intro pos b rest hb
  dsimp only
  rw [scanString_cons, if_neg (hb.ne (by decide)), hb.isLineBreak, if_neg Bool.false_ne_true,
    if_neg (hb.ne hquote)]

/-- On bytes a string ends where it ends on characters. -/
theorem scanString_encode {quote : Char} (hquote : ¬ Wide quote) (pos : Nat) (cs : List Char) :
    cursor? (scanString quote pos (encode cs)) = (stringTail quote cs).map (Split.cursor pos) := by
  fun_induction stringTail quote cs generalizing pos with
  | case1 => rfl
  | case2 =>
    obtain ⟨b, hb, -, hbytes⟩ := encode_ascii (c := '\\') (by decide)
    rw [hbytes, encode_nil, scanString_cons, if_pos hb]
    rfl
  | case3 d more ih =>
    obtain ⟨b, hb, hsize, hbytes⟩ := encode_ascii (c := '\\') (by decide)
    obtain ⟨b', others, hd, hskip⟩ := over_skipped (scanString_wide hquote) d
    rw [hbytes, encode_cons, hd, List.cons_append, scanString_cons, if_pos hb]
    dsimp only
    rw [hskip (pos + 1), ih, map_cursor_prepend, byteLength_cons, byteLength_singleton, hsize,
      Nat.add_assoc]
  | case4 c rest hback hbreak =>
    have hc : ¬ Wide c := fun hwide => by simp [hwide.isLineBreak] at hbreak
    obtain ⟨b, rfl, -, hbytes⟩ := encode_ascii hc
    rw [hbytes, scanString_cons, if_neg hback, if_pos hbreak]
    rfl
  | case5 rest hback hbreak =>
    obtain ⟨b, hb, hsize, hbytes⟩ := encode_ascii hquote
    rw [hbytes, scanString_cons, hb, if_neg hback, if_neg hbreak, if_pos rfl, Option.map_some,
      Split.cursor, byteLength_singleton, hsize]
  | case6 c rest hback hbreak hend ih =>
    rw [map_cursor_prepend, byteLength_singleton]
    by_cases hc : Wide c
    · rw [over_char (scanString_wide hquote) hc, ih]
    · obtain ⟨b, rfl, hsize, hbytes⟩ := encode_ascii hc
      rw [hbytes, scanString_cons, if_neg hback, if_neg hbreak, if_neg hend, ih, hsize]

/-! ## Runs of bytes -/

/-- The characters outside ASCII are all the same to `p`. -/
def Uniform (p : Char → Bool) : Prop := ∀ c d, Wide c → Wide d → p c = p d

theorem uniform_isAlpha : Uniform Char.isAlpha := fun _ _ hc hd => hc.isAlpha.trans hd.isAlpha.symm

theorem uniform_isWordChar : Uniform isWordChar := fun _ _ hc hd =>
  hc.isWordChar.trans hd.isWordChar.symm

theorem uniform_ne {c : Char} (hc : ¬ Wide c) : Uniform (· != c) := fun _ _ hd he =>
  (bne_iff_ne.2 (hd.ne hc)).trans (bne_iff_ne.2 (he.ne hc)).symm

theorem uniform_not_isLineBreak : Uniform fun c => !isLineBreak c := fun _ _ hc hd => by
  simp [hc.isLineBreak, hd.isLineBreak]

theorem scanWhile_encode {p : Char → Bool} (hp : Uniform p) (pos : Nat) (cs : List Char) :
    scanWhile p pos (encode cs) = (spanSplit p cs).cursor pos := by
  induction cs generalizing pos with
  | nil => rfl
  | cons c rest ih =>
    -- What is read goes on with the character or ends in front of it.
    have hread : p c = true →
        spanSplit p (c :: rest) = (spanSplit p rest).prepend [c] := by
      intro h
      simp [spanSplit, Split.prepend, h]
    have hstop : p c = false → spanSplit p (c :: rest) = ⟨[], c :: rest⟩ := by
      intro h
      simp [spanSplit, h]
    by_cases hc : Wide c
    · cases h : p c with
      | true =>
        have hwide : PassesWide fun pos bytes => scanWhile p pos bytes := by
          intro pos b bytes hb
          dsimp only
          rw [scanWhile, if_pos (by rw [hp _ _ hb hc, h])]
        rw [over_char hwide hc, ih, hread h, Split.cursor_prepend, byteLength_singleton]
      | false =>
        obtain ⟨hascii, -⟩ | ⟨-, b, more, hbytes, hb, -⟩ := utf8EncodeChar_cases c
        · exact absurd hc hascii
        · rw [hstop h, encode_cons, hbytes, List.cons_append, scanWhile,
            if_neg (by rw [hp _ _ hb hc, h]; exact Bool.false_ne_true), Split.cursor, encode_cons,
            hbytes]
          rfl
    · obtain ⟨b, hb, hsize, hbytes⟩ := encode_ascii hc
      cases h : p c with
      | true =>
        rw [hread h, Split.cursor_prepend, byteLength_singleton, hsize, hbytes, scanWhile,
          if_pos (by rw [hb, h]), ih]
      | false =>
        rw [hstop h, hbytes, scanWhile, if_neg (by rw [hb, h]; exact Bool.false_ne_true),
          Split.cursor, hbytes]
        rfl

/-! ## Regular expressions -/

/-- A split with the letters behind it. -/
def Split.withLetters (split : Split) : Split :=
  (spanSplit Char.isAlpha split.rest).prepend split.read

theorem Split.withLetters_prepend (cs : List Char) (split : Split) :
    (split.prepend cs).withLetters = split.withLetters.prepend cs := by
  simp [Split.withLetters, Split.prepend]

theorem map_cursor_withLetters_prepend (pos : Nat) (cs : List Char) (split : Option Split) :
    (split.map (Split.prepend cs)).map (fun inner => inner.withLetters.cursor pos) =
      split.map fun inner => inner.withLetters.cursor (pos + byteLength cs) := by
  rw [Option.map_map]
  congr 1
  funext inner
  rw [Function.comp_apply, Split.withLetters_prepend, Split.cursor_prepend]

theorem scanRegex_cons (inClass : Bool) (pos : Nat) (b : UInt8) (rest : List UInt8) :
    cursor? (scanRegex inClass pos (b :: rest)) =
      if isLineBreak (byteChar b) then none
      else if byteChar b = '\\' then
        match rest with
        | [] => none
        | _ :: more => cursor? (scanRegex inClass (pos + 2) more)
      else if byteChar b = '[' then cursor? (scanRegex true (pos + 1) rest)
      else if byteChar b = ']' then cursor? (scanRegex false (pos + 1) rest)
      else if byteChar b = '/' ∧ !inClass then some (scanWhile Char.isAlpha (pos + 1) rest)
      else cursor? (scanRegex inClass (pos + 1) rest) := by
  rw [scanRegex.eq_def]
  dsimp only
  split
  · rfl
  split
  · cases rest with
    | nil => rfl
    | cons d more => exact Option.map_map ..
  split
  · exact Option.map_map ..
  split
  · exact Option.map_map ..
  split
  · rfl
  · exact Option.map_map ..

theorem scanRegex_wide (inClass : Bool) :
    PassesWide fun pos bytes => cursor? (scanRegex inClass pos bytes) := by
  intro pos b rest hb
  dsimp only
  rw [scanRegex_cons, hb.isLineBreak, if_neg Bool.false_ne_true, if_neg (hb.ne (by decide)),
    if_neg (hb.ne (by decide)), if_neg (hb.ne (by decide)),
    if_neg fun h => hb.ne (by decide) h.1]

/-- On bytes a regular expression ends where it ends on characters. -/
theorem scanRegex_encode (inClass : Bool) (pos : Nat) (cs : List Char) :
    cursor? (scanRegex inClass pos (encode cs)) =
      (regexTail inClass cs).map fun split => split.withLetters.cursor pos := by
  fun_induction regexTail inClass cs generalizing pos with
  | case1 => rfl
  | case2 inClass c rest hbreak =>
    have hc : ¬ Wide c := fun hwide => by simp [hwide.isLineBreak] at hbreak
    obtain ⟨b, rfl, -, hbytes⟩ := encode_ascii hc
    rw [hbytes, scanRegex_cons, if_pos hbreak]
    rfl
  | case3 inClass hbreak =>
    obtain ⟨b, hb, -, hbytes⟩ := encode_ascii (c := '\\') (by decide)
    rw [hbytes, encode_nil, scanRegex_cons, hb, if_neg hbreak, if_pos rfl]
    rfl
  | case4 inClass d more hbreak ih =>
    obtain ⟨b, hb, hsize, hbytes⟩ := encode_ascii (c := '\\') (by decide)
    obtain ⟨b', others, hd, hskip⟩ := over_skipped (scanRegex_wide inClass) d
    rw [hbytes, encode_cons, hd, List.cons_append, scanRegex_cons, hb, if_neg hbreak, if_pos rfl]
    dsimp only
    rw [hskip (pos + 1), ih, map_cursor_withLetters_prepend, byteLength_cons, byteLength_singleton,
      hsize, Nat.add_assoc]
  | case5 inClass rest hbreak hback ih =>
    obtain ⟨b, hb, hsize, hbytes⟩ := encode_ascii (c := '[') (by decide)
    rw [hbytes, scanRegex_cons, hb, if_neg hbreak, if_neg hback, if_pos rfl, ih,
      map_cursor_withLetters_prepend, byteLength_singleton, hsize]
  | case6 inClass rest hbreak hback hopen ih =>
    obtain ⟨b, hb, hsize, hbytes⟩ := encode_ascii (c := ']') (by decide)
    rw [hbytes, scanRegex_cons, hb, if_neg hbreak, if_neg hback, if_neg hopen, if_pos rfl, ih,
      map_cursor_withLetters_prepend, byteLength_singleton, hsize]
  | case7 inClass c rest hbreak hback hopen hclose hend =>
    obtain ⟨b, hb, hsize, hbytes⟩ := encode_ascii (c := c) (by rw [hend.1]; decide)
    rw [hbytes, scanRegex_cons, hb, if_neg hbreak, if_neg hback, if_neg hopen, if_neg hclose,
      if_pos hend, scanWhile_encode uniform_isAlpha, Option.map_some, Split.withLetters,
      Split.cursor_prepend, byteLength_singleton, hsize]
  | case8 inClass c rest hbreak hback hopen hclose hend ih =>
    rw [map_cursor_withLetters_prepend, byteLength_singleton]
    by_cases hc : Wide c
    · rw [over_char (scanRegex_wide inClass) hc, ih]
    · obtain ⟨b, rfl, hsize, hbytes⟩ := encode_ascii hc
      rw [hbytes, scanRegex_cons, if_neg hbreak, if_neg hback, if_neg hopen, if_neg hclose,
        if_neg hend, ih, hsize]

/-! ## Numbers -/

theorem Wide.not_continuesNumber {c : Char} (hc : Wide c) (radix : Bool) (previous : Char) :
    continuesNumber radix previous c = false := by
  have hother : ∀ d : Char, ¬ Wide d → (c == d) = false := fun d hd => beq_false_of_ne (hc.ne hd)
  rw [continuesNumber, hc.isAlphanum, hother '_' (by decide), hother '.' (by decide),
    hother '+' (by decide), hother '-' (by decide)]
  simp

theorem scanNumber_cons (radix : Bool) (previous : Char) (pos : Nat) (b : UInt8)
    (rest : List UInt8) :
    scanNumber radix previous pos (b :: rest) =
      if continuesNumber radix previous (byteChar b) then
        scanNumber radix (byteChar b) (pos + 1) rest
      else ⟨pos, b :: rest⟩ := rfl

/-- On bytes a number ends where it ends on characters. -/
theorem scanNumber_encode (radix : Bool) (previous : Char) (pos : Nat) (cs : List Char) :
    scanNumber radix previous pos (encode cs) = (numberTail radix previous cs).cursor pos := by
  induction cs generalizing previous pos with
  | nil => rfl
  | cons c rest ih =>
    rw [numberTail_cons]
    by_cases hc : Wide c
    · -- Neither the character nor its first byte continues a number.
      obtain ⟨hascii, -⟩ | ⟨-, b, more, hbytes, hb, -⟩ := utf8EncodeChar_cases c
      · exact absurd hc hascii
      · rw [hc.not_continuesNumber, if_neg Bool.false_ne_true, Split.cursor, encode_cons, hbytes,
          List.cons_append, scanNumber_cons, hb.not_continuesNumber, if_neg Bool.false_ne_true]
        rfl
    · obtain ⟨b, rfl, hsize, hbytes⟩ := encode_ascii hc
      rw [hbytes, scanNumber_cons]
      split
      · rw [ih, Split.cursor_prepend, byteLength_singleton, hsize]
      · rw [Split.cursor, hbytes]
        rfl

/-! ## Block comments -/

/-- The next byte of a text is the next character, if this is in ASCII. -/
theorem nextChar_encode {c : Char} (hc : ¬ Wide c) (cs : List Char) :
    nextChar (encode cs) = some c ↔ cs.head? = some c := by
  cases cs with
  | nil => simp [nextChar]
  | cons d rest =>
    rcases utf8EncodeChar_cases d with ⟨-, b, hbytes, hb⟩ | ⟨hd, b, more, hbytes, hb, -⟩
    · rw [encode_cons, hbytes]
      simp [nextChar, hb]
    · rw [encode_cons, hbytes]
      simp [nextChar, hb.ne hc, hd.ne hc]

theorem scanBlock_cons (pos : Nat) (b : UInt8) (rest : List UInt8) :
    cursor? (scanBlock pos (b :: rest)) =
      if byteChar b = '*' ∧ nextChar rest = some '/' then some ⟨pos + 2, rest.tail⟩
      else cursor? (scanBlock (pos + 1) rest) := by
  cases rest with
  | nil =>
    rw [scanBlock, if_neg]
    · rfl
    · simp [nextChar]
  | cons d more =>
    rw [scanBlock]
    simp only [nextChar, List.head?_cons, Option.map_some, Option.some.injEq, List.tail_cons]
    split
    · rfl
    · exact Option.map_map ..

theorem scanBlock_wide : PassesWide fun pos bytes => cursor? (scanBlock pos bytes) := by
  intro pos b rest hb
  dsimp only
  rw [scanBlock_cons, if_neg fun h => hb.ne (by decide) h.1]

/-- On bytes a block comment ends where it ends on characters. -/
theorem scanBlock_encode (pos : Nat) (cs : List Char) :
    cursor? (scanBlock pos (encode cs)) = (blockTail cs).map (Split.cursor pos) := by
  induction cs generalizing pos with
  | nil => rfl
  | cons c rest ih =>
    rw [blockTail]
    by_cases hc : Wide c
    · rw [over_char scanBlock_wide hc, ih, if_neg fun h => hc.ne (by decide) h.1,
        map_cursor_prepend, byteLength_singleton]
    · obtain ⟨b, rfl, hsize, hbytes⟩ := encode_ascii hc
      have hnext := nextChar_encode (c := '/') (by decide) rest
      rw [hbytes, scanBlock_cons]
      simp only [hnext]
      split
      · rename_i hend
        obtain ⟨hstar, hslash⟩ := hend
        obtain ⟨more, rfl⟩ := List.head?_eq_some_iff.1 hslash
        obtain ⟨d, -, hsize', hbytes'⟩ := encode_ascii (c := '/') (by decide)
        rw [hbytes']
        rfl
      · rw [ih, map_cursor_prepend, byteLength_singleton, hsize]

end LiveMarkup.Script
