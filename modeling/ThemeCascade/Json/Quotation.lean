import ThemeCascade.Json.Turn
import ThemeCascade.Json.Word

/-! JSON strings, from the character after the opening quote. A string is read for its value, which
must be Unicode text, or passed over, which asks less of its escapes. -/

namespace ThemeCascade.Json.Quotation

def hexDigit? (c : Char) : Option Nat :=
  if c.isDigit then some (c.toNat - '0'.toNat)
  else if 'a' ≤ c ∧ c ≤ 'f' then some (c.toNat - 'a'.toNat + 10)
  else if 'A' ≤ c ∧ c ≤ 'F' then some (c.toNat - 'A'.toNat + 10)
  else none

/-- The value of four hexadecimal digits. -/
def hexValue? (t : Text) : Option Nat :=
  if t.length = 4 then (t.mapM hexDigit?).map (·.foldl (16 * · + ·) 0) else none

/-- Four bytes are read before they are found not to be digits. -/
def codeUnit (t : Text) : Except Fault (Nat × Text) :=
  match hexValue? (t.take 4) with
  | some value => .ok (value, t.drop 4)
  | none =>
    if t.byteLength < 4 then .error ⟨.endInString, [], 0⟩
    else .error ⟨.badEscape, t, 4⟩

/-- The character behind a backslash stands for this one. -/
def shortEscape? : Char → Option Char
  | '"' => some '"'
  | '\\' => some '\\'
  | '/' => some '/'
  | 'b' => some '\x08'
  | 'f' => some '\x0c'
  | 'n' => some '\n'
  | 'r' => some '\r'
  | 't' => some '\t'
  | _ => none

/-- One character of the mark that announces the second half of a surrogate pair. -/
def pairMark (c : Char) (t : Text) : Except Fault Text :=
  match t with
  | [] => .error ⟨.endInString, [], 0⟩
  | d :: rest => if c = d then .ok rest else .error (.atNext .brokenPair t)

def isLeading (unit : Nat) : Bool := 0xd800 ≤ unit && unit ≤ 0xdbff

def isTrailing (unit : Nat) : Bool := 0xdc00 ≤ unit && unit ≤ 0xdfff

/-- The character of a surrogate pair. -/
def pairValue (leading trailing : Nat) : Char :=
  Char.ofNat (0x10000 + (leading - 0xd800) * 0x400 + (trailing - 0xdc00))

/-- The character that code units in hexadecimal stand for: one, or a surrogate pair. -/
def unicode (t : Text) : Except Fault (Char × Text) := do
  let (unit, t) ← codeUnit t
  if isTrailing unit then .error ⟨.loneSurrogate, t, 0⟩
  else if isLeading unit then
    let t ← pairMark '\\' t
    let t ← pairMark 'u' t
    let (second, t) ← codeUnit t
    if isTrailing second then .ok (pairValue unit second, t)
    else .error ⟨.loneSurrogate, t, 0⟩
  else .ok (Char.ofNat unit, t)

/-- The character that an escape stands for, from what follows the backslash. -/
def escape (t : Text) : Except Fault (Char × Text) :=
  match t with
  | [] => .error ⟨.endInString, [], 0⟩
  | c :: rest =>
    if c = 'u' then unicode rest
    else
      match shortEscape? c with
      | some d => .ok (d, rest)
      | none => .error (.atNext .badEscape t)

/-- What follows an escape whose value does not matter. -/
def passEscape (t : Text) : Except Fault Text :=
  match t with
  | [] => .error ⟨.endInString, [], 0⟩
  | c :: rest =>
    if c = 'u' then do return (← codeUnit rest).2
    else if (shortEscape? c).isSome then .ok rest
    else .error (.atNext .badEscape t)

theorem length_of_codeUnit {t rest : Text} {unit : Nat} (h : codeUnit t = .ok (unit, rest)) :
    rest.length ≤ t.length := by
  unfold codeUnit at h
  split at h
  · cases h; simp
  · split at h <;> cases h

theorem length_of_pairMark {c : Char} {t rest : Text} (h : pairMark c t = .ok rest) :
    rest.length ≤ t.length := by
  unfold pairMark at h
  split at h
  · cases h
  · split at h
    · cases h; simp
    · cases h

theorem length_of_unicode {t rest : Text} {c : Char} (h : unicode t = .ok (c, rest)) :
    rest.length ≤ t.length := by
  simp only [unicode, bind_eq_ok_iff, Prod.exists] at h
  obtain ⟨unit, t₁, h₁, h⟩ := h
  have := length_of_codeUnit h₁
  split at h
  · cases h
  · split at h
    · simp only [bind_eq_ok_iff, Prod.exists] at h
      obtain ⟨t₂, h₂, t₃, h₃, second, t₄, h₄, h⟩ := h
      have := length_of_pairMark h₂
      have := length_of_pairMark h₃
      have := length_of_codeUnit h₄
      split at h
      · obtain ⟨-, rfl⟩ := Prod.mk.inj (Except.ok.inj h)
        omega
      · cases h
    · obtain ⟨-, rfl⟩ := Prod.mk.inj (Except.ok.inj h)
      omega

theorem length_of_escape {t rest : Text} {c : Char} (h : escape t = .ok (c, rest)) :
    rest.length ≤ t.length := by
  unfold escape at h
  split at h
  · cases h
  · split at h
    · exact Nat.le_succ_of_le (length_of_unicode h)
    · split at h
      · cases h; simp
      · cases h

theorem length_of_passEscape {t rest : Text} (h : passEscape t = .ok rest) :
    rest.length ≤ t.length := by
  unfold passEscape at h
  split at h
  · cases h
  · split at h
    · simp only [bind_eq_ok_iff, Prod.exists] at h
      obtain ⟨_, t₁, h₁, h⟩ := h
      cases h
      exact Nat.le_succ_of_le (length_of_codeUnit h₁)
    · split at h
      · cases h; simp
      · cases h

/-- One character of a string. The state is the value so far, backwards. -/
def readTurn : Turn Text where
  run value t :=
    match t with
    | [] => .error ⟨.endInString, [], 0⟩
    | c :: rest =>
      if c = '"' then .ok (none, rest)
      else if c = '\\' then do
        let (d, rest) ← escape rest
        return (some (d :: value), rest)
      else if c < ' ' then .error (.atNext .controlCharacter t)
      else .ok (some (c :: value), rest)
  shorter := by
    intro value t next rest h
    split at h
    · cases h
    · split at h
      · cases h; simp
      · split at h
        · simp only [bind_eq_ok_iff, Prod.exists] at h
          obtain ⟨_, t₁, h₁, h⟩ := h
          cases h
          exact Nat.lt_succ_of_le (length_of_escape h₁)
        · split at h
          · cases h
          · cases h; simp

/-- One character of a string that is passed over. A control character is not read before it is
refused. -/
def passTurn : Turn Unit where
  run _ t :=
    match t with
    | [] => .error ⟨.endInString, [], 0⟩
    | c :: rest =>
      if c = '"' then .ok (none, rest)
      else if c = '\\' then do return (some (), ← passEscape rest)
      else if c < ' ' then .error ⟨.controlCharacter, t, 0⟩
      else .ok (some (), rest)
  shorter := by
    intro _ t next rest h
    split at h
    · cases h
    · split at h
      · cases h; simp
      · split at h
        · simp only [bind_eq_ok_iff] at h
          obtain ⟨t₁, h₁, h⟩ := h
          cases h
          exact Nat.lt_succ_of_le (length_of_passEscape h₁)
        · split at h
          · cases h
          · cases h; simp

/-- The value of a string and what follows its closing quote. -/
def read (t : Text) : Except Fault (Text × Text) := do
  let (value, rest) ← readTurn.loop [] t
  return (value.reverse, rest)

/-- What follows the closing quote. -/
def pass (t : Text) : Except Fault Text := do return (← passTurn.loop () t).2

theorem length_of_read {t value rest : Text} (h : read t = .ok (value, rest)) :
    rest.length < t.length := by
  simp only [read, bind_eq_ok_iff, Prod.exists] at h
  obtain ⟨_, _, h₁, h⟩ := h
  cases h
  exact readTurn.loop_shorter h₁

theorem length_of_pass {t rest : Text} (h : pass t = .ok rest) : rest.length < t.length := by
  simp only [pass, bind_eq_ok_iff, Prod.exists] at h
  obtain ⟨_, _, h₁, h⟩ := h
  cases h
  exact passTurn.loop_shorter h₁

end ThemeCascade.Json.Quotation
