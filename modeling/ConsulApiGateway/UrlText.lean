/-
URLs: printing as in Go's `net/url`, and reading back what was printed.

* `escape` — percent-encoding, the inverse of `unescape`;
* `URL.string` — `URL.String`, for URLs without user information and fragment;
* `encodeValues` — `Values.Encode`.

Reading back rests on what cannot occur in an escaped text: the bytes that a URL or a query is
split at are all escaped (`notMem_escape`).

* `unescape_escape` — unescaping inverts escaping;
* `parse_string` — a printed URL is parsed into what it was printed from, so that different
  URLs are printed differently (`string_inj`);
* `filterMap_queryPair_encodeValues` — so is an encoded query.
-/
import ConsulApiGateway.Url
import Mathlib.Data.List.TakeWhile

namespace Url

/-! ### Percent-encoding -/

/-- Letters, digits and marks. -/
def unreserved (c : UInt8) : Bool := isLetter c ∨ isDigit c ∨ oneOf "-_.~" c

/-- `shouldEscape`, by the component a byte stands in. -/
def shouldEscape : Encoding → UInt8 → Bool
  | .path, c => ¬ (unreserved c ∨ oneOf "$&+,/:;=@" c)
  | .userPassword, c => ¬ (unreserved c ∨ oneOf "$&+,;=" c)
  | .queryComponent, c => ¬ unreserved c
  | .fragment, c => ¬ (unreserved c ∨ oneOf "$&+,/:;=?@!()*" c)
  | .host, c | .zone, c => shouldEscapeHost c

/-- A hexadecimal digit, in upper case. -/
def hexDigit (n : UInt8) : UInt8 := if n < 10 then '0'.toUInt8 + n else 'A'.toUInt8 + (n - 10)

def escapeByte (mode : Encoding) (c : UInt8) : Bytes :=
  if c = ' '.toUInt8 ∧ mode = .queryComponent then ['+'.toUInt8]
  else if shouldEscape mode c then ['%'.toUInt8, hexDigit (c / 16), hexDigit (c % 16)]
  else [c]

def escape (mode : Encoding) (s : Bytes) : Bytes := s.flatMap (escapeByte mode)

/-! ### Printing -/

/-- `URL.EscapedPath`. -/
def escapedPath (path : Bytes) : Bytes :=
  if path = GoStd.bytes "*" then path else escape .path path

/-- `URL.String`. -/
def URL.string (u : URL) : Bytes :=
  let scheme := if u.scheme ≠ [] then u.scheme ++ GoStd.bytes ":" else []
  let authority :=
    if (u.scheme ≠ [] ∨ u.host ≠ []) ∧ (u.host ≠ [] ∨ u.path ≠ []) then
      GoStd.bytes "//" ++ escape .host u.host
    else []
  let path := escapedPath u.path
  let separator :=
    if path ≠ [] ∧ path.head? ≠ some '/'.toUInt8 ∧ u.host ≠ [] then GoStd.bytes "/"
    -- a relative path must not be read as a scheme
    else if scheme ++ authority = [] ∧ ':'.toUInt8 ∈ (cut '/' path).1 then GoStd.bytes "./"
    else []
  let query := if u.rawQuery ≠ [] then GoStd.bytes "?" ++ u.rawQuery else []
  scheme ++ authority ++ separator ++ path ++ query

def encodePair (pair : Bytes × Bytes) : Bytes :=
  escape .queryComponent pair.1 ++ '='.toUInt8 :: escape .queryComponent pair.2

/-- `Values.Encode`, of the keys and values in the order in which they were added. -/
def encodeValues (values : List (Bytes × Bytes)) : Bytes :=
  ['&'.toUInt8].intercalate
    ((values.insertionSort fun p q => p.1 ≤ q.1).map encodePair)

/-! ### Bytes -/

/-- What holds of the first `n` bytes, one by one, holds of all bytes below `n`. -/
theorem forall_toNat_lt {n : ℕ} {P : UInt8 → Prop} (h : ∀ i : Fin n, P (UInt8.ofNat i))
    (c : UInt8) (hc : c.toNat < n) : P c := by
  have hP := h ⟨c.toNat, hc⟩
  rwa [UInt8.ofNat_toNat] at hP

theorem unhex_hexDigit : ∀ n : UInt8, n.toNat < 16 → unhex? (hexDigit n) = some n :=
  forall_toNat_lt (by decide)

theorem unreserved_hexDigit : ∀ n : UInt8, n.toNat < 16 → unreserved (hexDigit n) = true :=
  forall_toNat_lt (by decide)

/-- A byte from its two digits. -/
theorem div_mul_add_mod (c : UInt8) : c / 16 * 16 + c % 16 = c := by
  apply UInt8.toNat_inj.1
  have hc := c.toNat_lt
  simp only [UInt8.toNat_add, UInt8.toNat_mul, UInt8.toNat_div, UInt8.toNat_mod]
  change (c.toNat / 16 * 16 % 256 + c.toNat % 16) % 256 = c.toNat
  omega

theorem toNat_div_lt (c : UInt8) : (c / 16).toNat < 16 := by
  have hc := c.toNat_lt
  rw [UInt8.toNat_div]
  change c.toNat / 16 < 16
  omega

theorem toNat_mod_lt (c : UInt8) : (c % 16).toNat < 16 := by
  rw [UInt8.toNat_mod]
  exact Nat.mod_lt _ (by decide)

variable {c : UInt8} {mode : Encoding} {u : URL} {s : Bytes}

theorem not_shouldEscape_of_unreserved (h : unreserved c = true) :
    shouldEscape mode c = false := by
  have hcases : isLetter c = true ∨ isDigit c = true ∨ oneOf "-_.~" c = true := by
    simpa [unreserved] using h
  rcases hcases with h | h | h <;> cases mode <;>
    simp [shouldEscape, unreserved, shouldEscapeHost, h]

/-- The bytes of an escaped text: those that are left as they are, and those that escapes are
made of. -/
theorem mem_escape (h : c ∈ escape mode s) :
    c ∈ s ∧ shouldEscape mode c = false ∨ unreserved c = true ∨ oneOf "%+" c = true := by
  obtain ⟨b, hb, hc⟩ := List.mem_flatMap.1 h
  rw [escapeByte] at hc
  split_ifs at hc with hblank hescape
  · rw [List.mem_singleton.1 hc]
    exact .inr (.inr (by decide))
  · simp only [List.mem_cons, List.not_mem_nil, or_false] at hc
    rcases hc with rfl | rfl | rfl
    · exact .inr (.inr (by decide))
    · exact .inr (.inl (unreserved_hexDigit _ (toNat_div_lt b)))
    · exact .inr (.inl (unreserved_hexDigit _ (toNat_mod_lt b)))
  · rw [List.mem_singleton.1 hc]
    exact .inl ⟨hb, Bool.eq_false_iff.2 hescape⟩

theorem shouldEscape_of_mem_escape (h : c ∈ escape mode s) :
    shouldEscape mode c = false ∨ oneOf "%+" c = true := by
  rcases mem_escape h with ⟨-, h⟩ | h | h
  · exact .inl h
  · exact .inl (not_shouldEscape_of_unreserved h)
  · exact .inr h

/-- Bytes that must be escaped do not occur in an escaped text. -/
theorem notMem_escape (h : shouldEscape mode c = true) (hother : oneOf "%+" c = false) (s : Bytes) :
    c ∉ escape mode s := by
  intro hc
  rcases shouldEscape_of_mem_escape hc with hc | hc
  · exact Bool.false_ne_true (hc.symm.trans h)
  · exact Bool.false_ne_true (hother.symm.trans hc)

/-! ### Unescaping -/

theorem unescape_percent {h l vh vl : UInt8} (rest : Bytes) (hh : unhex? h = some vh)
    (hl : unhex? l = some vl) (hallowed : escapeAllowed mode (vh * 16 + vl) = true) :
    unescape mode ('%'.toUInt8 :: h :: l :: rest)
      = (unescape mode rest).map ((vh * 16 + vl) :: ·) := by
  rw [unescape]
  simp [hh, hl, hallowed]

theorem unescape_plus (rest : Bytes) :
    unescape .queryComponent ('+'.toUInt8 :: rest)
      = (unescape .queryComponent rest).map (' '.toUInt8 :: ·) := by
  conv_lhs => unfold unescape
  rw [if_neg (by decide), if_pos (by decide)]

theorem unescape_plain (rest : Bytes) (hescape : shouldEscape mode c = false) :
    unescape mode (c :: rest) = (unescape mode rest).map (c :: ·) := by
  have hpercent : c ≠ '%'.toUInt8 := by
    rintro rfl
    cases mode <;> cases hescape
  have hplus : ¬ (c = '+'.toUInt8 ∧ mode = .queryComponent) := by
    rintro ⟨rfl, rfl⟩
    cases hescape
  have hhost : ¬ ((mode = .host ∨ mode = .zone) ∧ c < 0x80 ∧ shouldEscapeHost c) := by
    rintro ⟨rfl | rfl, -, h⟩
    · exact Bool.eq_false_iff.1 hescape h
    · exact Bool.eq_false_iff.1 hescape h
  conv_lhs => unfold unescape
  rw [if_neg hpercent, if_neg hplus, if_neg hhost]

theorem unescape_escapeByte (rest : Bytes)
    (h : shouldEscape mode c = true → escapeAllowed mode c = true) :
    unescape mode (escapeByte mode c ++ rest) = (unescape mode rest).map (c :: ·) := by
  rw [escapeByte]
  split_ifs with hblank hescape
  · obtain ⟨rfl, rfl⟩ := hblank
    exact unescape_plus rest
  · have hallowed := h hescape
    rw [← div_mul_add_mod c] at hallowed
    have hpercent := unescape_percent rest (unhex_hexDigit _ (toNat_div_lt c))
      (unhex_hexDigit _ (toNat_mod_lt c)) hallowed
    rw [div_mul_add_mod] at hpercent
    exact hpercent
  · exact unescape_plain rest (Bool.eq_false_iff.2 hescape)

/-- Unescaping inverts escaping, if what is escaped may be escaped. -/
theorem unescape_escape (h : ∀ c ∈ s, shouldEscape mode c = true → escapeAllowed mode c = true) :
    unescape mode (escape mode s) = .ok s := by
  induction s with
  | nil => rfl
  | cons c s ih =>
    rw [List.forall_mem_cons] at h
    have hrest := ih h.2
    rw [escape] at hrest
    rw [escape, List.flatMap_cons, unescape_escapeByte _ h.1, hrest]
    rfl

theorem unescape_escape_path (s : Bytes) : unescape .path (escape .path s) = .ok s :=
  unescape_escape fun _ _ _ => rfl

theorem unescape_escape_queryComponent (s : Bytes) :
    unescape .queryComponent (escape .queryComponent s) = .ok s :=
  unescape_escape fun _ _ _ => rfl

/-! ### Splitting -/

theorem ne_of_notMem {sep : Char} (h : sep.toUInt8 ∉ s) :
    ∀ c ∈ s, decide (c ≠ sep.toUInt8) = true := by
  intro c hc
  exact decide_eq_true fun heq => h (heq ▸ hc)

theorem cut_append {sep : Char} (h : sep.toUInt8 ∉ s) (rest : Bytes) :
    cut sep (s ++ sep.toUInt8 :: rest) = (s, rest) := by
  rw [cut, List.takeWhile_append_of_pos (ne_of_notMem h),
    List.dropWhile_append_of_pos (ne_of_notMem h)]
  simp

theorem cut_of_notMem {sep : Char} (h : sep.toUInt8 ∉ s) : cut sep s = (s, []) := by
  rw [cut, List.takeWhile_eq_self_iff.2 (ne_of_notMem h),
    List.dropWhile_eq_nil_iff.2 (ne_of_notMem h)]
  rfl

/-! ### Queries -/

/-- The bytes of an encoded pair. -/
theorem mem_encodePair {pair : Bytes × Bytes} (h : c ∈ encodePair pair) :
    shouldEscape .queryComponent c = false ∨ oneOf "%+" c = true ∨ c = '='.toUInt8 := by
  rw [encodePair, List.mem_append, List.mem_cons] at h
  rcases h with h | h | h
  · exact (shouldEscape_of_mem_escape h).imp_right .inl
  · exact .inr (.inr h)
  · exact (shouldEscape_of_mem_escape h).imp_right .inl

theorem notMem_encodePair (hescape : shouldEscape .queryComponent c = true)
    (hother : oneOf "%+" c = false) (hequals : c ≠ '='.toUInt8) (pair : Bytes × Bytes) :
    c ∉ encodePair pair := by
  intro hc
  rcases mem_encodePair hc with h | h | h
  · exact Bool.false_ne_true (h.symm.trans hescape)
  · exact Bool.false_ne_true (hother.symm.trans h)
  · exact hequals h

theorem queryPair_encodePair (pair : Bytes × Bytes) : queryPair? (encodePair pair) = some pair := by
  have hsemicolon : ';'.toUInt8 ∉ encodePair pair :=
    notMem_encodePair (by decide) (by decide) (by decide) pair
  have hne : encodePair pair ≠ [] := by simp [encodePair]
  have hcut : cut '=' (encodePair pair)
      = (escape .queryComponent pair.1, escape .queryComponent pair.2) :=
    cut_append (notMem_escape (by decide) (by decide) _) _
  rw [queryPair?, if_neg (by simp [hsemicolon, hne]), hcut]
  simp only [unescape_escape_queryComponent]

/-- Splitting an encoded query gives back the pairs it was encoded from. -/
theorem filterMap_queryPair_encodeValues (values : List (Bytes × Bytes)) :
    ((encodeValues values).splitOn '&'.toUInt8).filterMap queryPair?
      = values.insertionSort fun p q => p.1 ≤ q.1 := by
  rw [encodeValues]
  generalize values.insertionSort (fun p q => p.1 ≤ q.1) = sorted
  cases sorted with
  | nil => rfl
  | cons pair sorted =>
    have hamp : ∀ part ∈ (pair :: sorted).map encodePair, '&'.toUInt8 ∉ part := by
      intro part hpart
      obtain ⟨p, -, rfl⟩ := List.mem_map.1 hpart
      exact notMem_encodePair (by decide) (by decide) (by decide) p
    have hinverse : queryPair? ∘ encodePair = some := funext queryPair_encodePair
    rw [List.splitOn_intercalate _ hamp (by simp), List.filterMap_map, hinverse,
      List.filterMap_some]

theorem queryGet_encodeValues (values : List (Bytes × Bytes)) (key : String) :
    queryGet (encodeValues values) key
      = (((values.insertionSort fun p q => p.1 ≤ q.1).find? (·.1 = GoStd.bytes key)).map
          (·.2)).getD [] := by
  rw [queryGet, filterMap_queryPair_encodeValues]

/-! ### The bytes of a printed URL -/

/-- A byte that neither ends a URL nor makes it invalid, within ASCII. -/
def plainByte (c : UInt8) : Bool := c ≠ '#'.toUInt8 ∧ ¬ (c < 0x20 ∨ c = 0x7F) ∧ c < 0x80

def schemeByte (c : UInt8) : Bool := isLetter c ∨ isDigit c ∨ oneOf "+-." c

theorem plainByte_of_oneOf {chars : String} (hchars : (GoStd.bytes chars).all plainByte = true)
    (h : oneOf chars c = true) : plainByte c = true :=
  List.all_eq_true.1 hchars c (of_decide_eq_true h)

theorem plainByte_of_toNat (hlow : 0x23 < c.toNat) (hhigh : c.toNat < 0x7F) :
    plainByte c = true := by
  have hne : c.toNat ≠ '#'.toUInt8.toNat := by
    change c.toNat ≠ 35
    omega
  have hcontrol : ¬ (c.toNat < 0x20 ∨ c.toNat = 0x7F) := by omega
  refine decide_eq_true ⟨fun h => hne (by rw [h]), ?_, ?_⟩
  · rintro (h | rfl)
    · exact hcontrol (.inl h)
    · exact hcontrol (.inr rfl)
  · change c.toNat < 128
    omega

theorem plainByte_of_isLetter (h : isLetter c = true) : plainByte c = true := by
  simp only [isLetter, decide_eq_true_eq, UInt8.le_iff_toNat_le] at h
  change 97 ≤ c.toNat ∧ c.toNat ≤ 122 ∨ 65 ≤ c.toNat ∧ c.toNat ≤ 90 at h
  exact plainByte_of_toNat (by omega) (by omega)

theorem plainByte_of_isDigit (h : isDigit c = true) : plainByte c = true := by
  simp only [isDigit, decide_eq_true_eq, UInt8.le_iff_toNat_le] at h
  change 48 ≤ c.toNat ∧ c.toNat ≤ 57 at h
  exact plainByte_of_toNat (by omega) (by omega)

theorem plainByte_of_letter_digit_or {chars : String}
    (hchars : (GoStd.bytes chars).all plainByte = true)
    (h : isLetter c = true ∨ isDigit c = true ∨ oneOf chars c = true) : plainByte c = true := by
  rcases h with h | h | h
  · exact plainByte_of_isLetter h
  · exact plainByte_of_isDigit h
  · exact plainByte_of_oneOf hchars h

theorem plainByte_of_schemeByte (h : schemeByte c = true) : plainByte c = true :=
  plainByte_of_letter_digit_or (by decide) (of_decide_eq_true h)

theorem plainByte_of_unreserved (h : unreserved c = true) : plainByte c = true :=
  plainByte_of_letter_digit_or (by decide) (of_decide_eq_true h)

theorem plainByte_of_not_shouldEscapeHost (h : shouldEscapeHost c = false) :
    plainByte c = true := by
  simp only [shouldEscapeHost, decide_eq_false_iff_not, not_not, ← or_assoc] at h
  rcases h with h | h
  · rw [or_assoc] at h
    exact plainByte_of_letter_digit_or (by decide) h
  · exact plainByte_of_oneOf (by decide) h

theorem plainByte_of_not_shouldEscape (h : shouldEscape mode c = false) : plainByte c = true := by
  cases mode with
  | host | zone => exact plainByte_of_not_shouldEscapeHost h
  | path | userPassword | fragment =>
    simp only [shouldEscape, decide_eq_false_iff_not, not_not] at h
    rcases h with h | h
    · exact plainByte_of_unreserved h
    · exact plainByte_of_oneOf (by decide) h
  | queryComponent =>
    simp only [shouldEscape, decide_eq_false_iff_not, not_not] at h
    exact plainByte_of_unreserved h

theorem plainByte_of_mem_escape (h : c ∈ escape mode s) : plainByte c = true := by
  rcases shouldEscape_of_mem_escape h with h | h
  · exact plainByte_of_not_shouldEscape h
  · exact plainByte_of_oneOf (by decide) h

theorem mem_intercalate {α : Type*} {sep a : α} {parts : List (List α)}
    (h : a ∈ [sep].intercalate parts) : a = sep ∨ ∃ part ∈ parts, a ∈ part := by
  induction parts with
  | nil => cases h
  | cons part parts ih =>
    cases parts with
    | nil =>
      rw [List.intercalate_singleton] at h
      exact .inr ⟨part, List.mem_cons_self, h⟩
    | cons part' parts =>
      rw [List.intercalate_cons_cons, List.mem_append, List.mem_append, List.mem_singleton] at h
      rcases h with (h | h) | h
      · exact .inr ⟨part, List.mem_cons_self, h⟩
      · exact .inl h
      · rcases ih h with h | ⟨p, hp, ha⟩
        · exact .inl h
        · exact .inr ⟨p, List.mem_cons_of_mem _ hp, ha⟩

theorem plainByte_of_mem_encodeValues {values : List (Bytes × Bytes)}
    (h : c ∈ encodeValues values) : plainByte c = true := by
  rcases mem_intercalate h with rfl | ⟨part, hpart, hc⟩
  · decide
  · obtain ⟨pair, -, rfl⟩ := List.mem_map.1 hpart
    rcases mem_encodePair hc with h | h | rfl
    · exact plainByte_of_not_shouldEscape h
    · exact plainByte_of_oneOf (by decide) h
    · decide

/-! ### Whole URLs -/

/-- A scheme as it is printed and parsed: in lower case. -/
structure IsScheme (s : Bytes) : Prop where
  letter : s.head?.any isLetter = true
  bytes : s.all schemeByte = true
  lower : toLower s = s

/-- What a host may contain to be printed and parsed again, apart from ports and addresses in
brackets. -/
structure HostByte (c : UInt8) : Prop where
  ne_colon : c ≠ ':'.toUInt8
  ne_bracket : c ≠ '['.toUInt8
  allowed : shouldEscape .host c = true → escapeAllowed .host c = true

/-- The URLs that are read back. -/
structure Printable (u : URL) : Prop where
  scheme : IsScheme u.scheme
  host : ∀ c ∈ u.host, HostByte c
  path : u.path = [] ∨ u.path.head? = some '/'.toUInt8
  rawQuery : ∀ c ∈ u.rawQuery, plainByte c = true

theorem IsScheme.ne_nil {scheme : Bytes} (h : IsScheme scheme) : scheme ≠ [] := by
  rintro rfl
  cases h.letter

theorem getScheme_append {scheme : Bytes} (h : IsScheme scheme) (rest : Bytes) :
    getScheme (scheme ++ ':'.toUInt8 :: rest) = .ok (scheme, rest) := by
  have hall : ∀ c ∈ scheme,
      decide (isLetter c = true ∨ isDigit c = true ∨ oneOf "+-." c = true) = true :=
    List.all_eq_true.1 h.bytes
  have hcolon : ¬ (isLetter ':'.toUInt8 = true ∨ isDigit ':'.toUInt8 = true ∨
      oneOf "+-." ':'.toUInt8 = true) := by decide
  have hletter := h.letter
  rw [getScheme]
  simp only [List.takeWhile_append_of_pos hall, List.dropWhile_append_of_pos hall,
    List.takeWhile_cons, List.dropWhile_cons, hcolon, decide_false, Bool.false_eq_true, if_false,
    List.append_nil, List.head?_cons, if_true, List.tail_cons]
  cases scheme with
  | nil => cases hletter
  | cons c scheme => exact if_pos hletter

/-- The part of a printed URL between the scheme and the query. -/
def URL.hierarchy (u : URL) : Bytes :=
  if u.host ≠ [] ∨ u.path ≠ [] then
    GoStd.bytes "//" ++ (escape .host u.host ++ escape .path u.path)
  else []

def URL.query (u : URL) : Bytes := if u.rawQuery ≠ [] then '?'.toUInt8 :: u.rawQuery else []

theorem Printable.head_escape (h : Printable u) :
    escape .path u.path = [] ∨ (escape .path u.path).head? = some '/'.toUInt8 := by
  rcases h.path with hpath | hpath
  · rw [hpath]
    exact .inl rfl
  · cases hu : u.path with
    | nil => exact .inl rfl
    | cons c path =>
      rw [hu] at hpath
      cases hpath
      exact .inr rfl

theorem Printable.escapedPath_eq (h : Printable u) :
    escapedPath u.path = escape .path u.path := by
  refine if_neg ?_
  intro hstar
  rcases h.path with hpath | hpath
  · rw [hstar] at hpath
    exact absurd hpath (by decide)
  · rw [hstar] at hpath
    exact absurd hpath (by decide)

theorem Printable.string_eq (h : Printable u) :
    u.string = u.scheme ++ ':'.toUInt8 :: (u.hierarchy ++ u.query) := by
  have hseparator : ¬ (escape .path u.path ≠ [] ∧
      (escape .path u.path).head? ≠ some '/'.toUInt8 ∧ u.host ≠ []) := by
    rintro ⟨hne, hslash, -⟩
    exact h.head_escape.elim hne hslash
  have hscheme := h.scheme.ne_nil
  have hcolon : GoStd.bytes ":" = [':'.toUInt8] := by decide
  have hquestion : GoStd.bytes "?" = ['?'.toUInt8] := by decide
  simp only [URL.string, h.escapedPath_eq, if_neg hseparator, URL.query, hcolon, hquestion]
  simp only [hscheme, ne_eq, not_false_eq_true, if_true, true_or, true_and, List.append_eq_nil_iff,
    false_and, if_false, List.append_nil, List.append_assoc, List.singleton_append, URL.hierarchy]
  by_cases hauthority : ¬ u.host = [] ∨ ¬ u.path = []
  · simp only [if_pos hauthority, List.append_assoc, List.cons_append]
  · have hpath : escape .path u.path = [] := by
      by_contra hpath
      exact hauthority (.inr fun hnil => hpath (by rw [hnil]; rfl))
    simp only [if_neg hauthority, hpath, List.cons_append, List.nil_append]

/-! ### Parsing what was printed -/

theorem slashes : GoStd.bytes "//" = ['/'.toUInt8, '/'.toUInt8] := by decide

theorem Printable.plainByte (h : Printable u) (hc : c ∈ u.string) :
    plainByte c = true := by
  rw [h.string_eq, List.mem_append, List.mem_cons, List.mem_append] at hc
  rcases hc with hc | rfl | hc | hc
  · exact plainByte_of_schemeByte (List.all_eq_true.1 h.scheme.bytes c hc)
  · decide
  · rw [URL.hierarchy, slashes] at hc
    split_ifs at hc with hauthority
    · simp only [List.cons_append, List.nil_append, List.mem_cons, List.mem_append] at hc
      rcases hc with rfl | rfl | hc | hc
      · decide
      · decide
      · exact plainByte_of_mem_escape hc
      · exact plainByte_of_mem_escape hc
    · cases hc
  · rw [URL.query] at hc
    split_ifs at hc with hquery
    · rcases List.mem_cons.1 hc with rfl | hc
      · decide
      · exact h.rawQuery c hc
    · cases hc

theorem question_notMem_hierarchy (u : URL) : '?'.toUInt8 ∉ u.hierarchy := by
  rw [URL.hierarchy, slashes]
  split_ifs with hauthority
  · simp only [List.cons_append, List.nil_append, List.mem_cons, List.mem_append, not_or]
    refine ⟨by decide, by decide, ?_, ?_⟩
    · exact notMem_escape (by decide) (by decide) _
    · exact notMem_escape (by decide) (by decide) _
  · exact List.not_mem_nil

theorem cut_query (u : URL) : cut '?' (u.hierarchy ++ u.query) = (u.hierarchy, u.rawQuery) := by
  rw [URL.query]
  split_ifs with hquery
  · exact cut_append (question_notMem_hierarchy u) _
  · rw [List.append_nil, cut_of_notMem (question_notMem_hierarchy u), not_not.1 hquery]

/-- A byte that escapes are not made of is in an escaped text only if it is in the text. -/
theorem notMem_escape_of_notMem (h : c ∉ s) (hunreserved : unreserved c = false)
    (hother : oneOf "%+" c = false) :
    c ∉ escape mode s := by
  intro hc
  rcases mem_escape hc with ⟨hc, -⟩ | hc | hc
  · exact h hc
  · exact Bool.false_ne_true (hunreserved.symm.trans hc)
  · exact Bool.false_ne_true (hother.symm.trans hc)

theorem Printable.parseAuthority (h : Printable u) :
    parseAuthority (escape .host u.host) = .ok u.host := by
  have hat : '@'.toUInt8 ∉ escape .host u.host := notMem_escape (by decide) (by decide) _
  have hcolon : ':'.toUInt8 ∉ escape .host u.host :=
    notMem_escape_of_notMem (fun hc => (h.host _ hc).ne_colon rfl) (by decide) (by decide)
  have hbracket : '['.toUInt8 ∉ escape .host u.host :=
    notMem_escape_of_notMem (fun hc => (h.host _ hc).ne_bracket rfl) (by decide) (by decide)
  have hhead : (escape .host u.host).head? ≠ some '['.toUInt8 := by
    intro hhead
    exact hbracket (List.mem_of_head? hhead)
  rw [Url.parseAuthority, cutLast, if_neg hat]
  simp only [parseHost, if_neg hhead, cutLast, if_neg hcolon]
  exact unescape_escape fun c hc => (h.host c hc).allowed

theorem Printable.split_authority (h : Printable u) :
    (escape .host u.host ++ escape .path u.path).takeWhile (· ≠ '/'.toUInt8)
        = escape .host u.host ∧
      (escape .host u.host ++ escape .path u.path).dropWhile (· ≠ '/'.toUInt8)
        = escape .path u.path := by
  have hslash : '/'.toUInt8 ∉ escape .host u.host := notMem_escape (by decide) (by decide) _
  rw [List.takeWhile_append_of_pos (ne_of_notMem hslash),
    List.dropWhile_append_of_pos (ne_of_notMem hslash)]
  rcases h.head_escape with hpath | hpath
  · rw [hpath]
    exact ⟨List.append_nil _, rfl⟩
  · cases hescape : escape .path u.path with
    | nil => exact ⟨List.append_nil _, rfl⟩
    | cons c path =>
      rw [hescape] at hpath
      cases hpath
      simp

theorem Printable.not_control (h : Printable u) :
    ¬ (u.string.any fun c => c < 0x20 ∨ c = 0x7F) = true := by
  intro hany
  obtain ⟨c, hc, hcontrol⟩ := List.any_eq_true.1 hany
  have hplain := h.plainByte hc
  simp only [Url.plainByte, decide_eq_true_eq] at hplain hcontrol
  exact hplain.2.1 hcontrol

theorem Printable.ne_star (h : Printable u) : u.string ≠ GoStd.bytes "*" := by
  intro hstar
  have hcolon : ':'.toUInt8 ∈ u.string := by
    rw [h.string_eq]
    simp
  rw [hstar] at hcolon
  exact absurd hcolon (by decide)

theorem hierarchy_of_authority (h : u.host ≠ [] ∨ u.path ≠ []) :
    u.hierarchy = '/'.toUInt8 :: '/'.toUInt8 :: (escape .host u.host ++ escape .path u.path) := by
  rw [URL.hierarchy, if_pos h, slashes]
  rfl

theorem Printable.parseNoFragment (h : Printable u) :
    parseNoFragment u.string = .ok u := by
  unfold Url.parseNoFragment
  rw [if_neg h.not_control, if_neg h.ne_star, h.string_eq, getScheme_append h.scheme]
  simp only [bind, Except.bind, cut_query, h.scheme.lower]
  by_cases hauthority : u.host ≠ [] ∨ u.path ≠ []
  · have hhierarchy := hierarchy_of_authority hauthority
    have hprefix : GoStd.bytes "//" <+: u.hierarchy ∧
        (u.scheme ≠ [] ∨ ¬ GoStd.bytes "///" <+: u.hierarchy) := by
      rw [hhierarchy, slashes]
      exact ⟨List.prefix_append ['/'.toUInt8, '/'.toUInt8] _, .inl h.scheme.ne_nil⟩
    have hhead : ¬ u.hierarchy.head? ≠ some '/'.toUInt8 := by
      rw [hhierarchy]
      exact not_not.2 rfl
    have hdrop : u.hierarchy.drop 2 = escape .host u.host ++ escape .path u.path := by
      rw [hhierarchy]
      rfl
    rw [if_neg hhead, if_pos hprefix, hdrop, h.split_authority.1, h.split_authority.2,
      h.parseAuthority]
    simp only [unescape_escape_path]
    rfl
  · -- without authority and path the URL is opaque to the parser
    have hhost : u.host = [] := not_not.1 fun hhost => hauthority (.inl hhost)
    have hpath : u.path = [] := not_not.1 fun hpath => hauthority (.inr hpath)
    have hhead : u.hierarchy.head? ≠ some '/'.toUInt8 := by
      rw [URL.hierarchy, if_neg hauthority]
      intro h
      cases h
    rw [if_pos hhead, if_pos h.scheme.ne_nil]
    cases u
    cases hhost
    cases hpath
    rfl

/-- A printed URL is parsed into what it was printed from. -/
theorem parse_string (h : Printable u) : parse u.string = .ok u := by
  have hfragment : '#'.toUInt8 ∉ u.string := by
    intro hc
    exact absurd (h.plainByte hc) (by decide)
  rw [parse, cut_of_notMem hfragment]
  simp only [h.parseNoFragment]
  rfl

/-- Different URLs are printed differently. -/
theorem string_inj {v : URL} (hu : Printable u) (hv : Printable v) (h : u.string = v.string) :
    u = v := by
  have hparse := parse_string hu
  rw [h, parse_string hv] at hparse
  exact (Except.ok.inj hparse).symm

/-! ### Printed URLs as strings -/

/-- A sequence of ASCII bytes as a string. -/
def text (s : Bytes) : String := String.ofList (s.map fun c => Char.ofNat c.toNat)

theorem utf8EncodeChar_ofNat :
    ∀ c : UInt8, c.toNat < 0x80 → String.utf8EncodeChar (Char.ofNat c.toNat) = [c] :=
  forall_toNat_lt (by decide)

theorem bytes_text (h : ∀ c ∈ s, plainByte c = true) : GoStd.bytes (text s) = s := by
  rw [GoStd.bytes, text, String.toList_ofList, List.flatMap_map]
  induction s with
  | nil => rfl
  | cons c s ih =>
    rw [List.forall_mem_cons] at h
    have hplain := h.1
    simp only [plainByte, decide_eq_true_eq] at hplain
    rw [List.flatMap_cons, ih h.2, utf8EncodeChar_ofNat c hplain.2.2]
    rfl

end Url
