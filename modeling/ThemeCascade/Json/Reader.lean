import ThemeCascade.Json.Passing

/-! Readers take a JSON text for a value of a type of their own and stop at the first fault. -/

namespace ThemeCascade.Json

structure Reader (α : Type) where
  run : Text → Except Fault (α × Text)
  shorter : ∀ {t a rest}, run t = .ok (a, rest) → rest.length < t.length

namespace Reader

/-- Why the value that comes next is not of the wanted type. Strings, numbers and words are read
first, and what is wrong within them comes before; a list or an object is not entered. -/
def mismatch (wanted : String) (t : Text) : Fault :=
  match t with
  | [] => .atNext .endInValue []
  | c :: rest =>
    if c = '[' then ⟨.wrongType .list wanted, t, 0⟩
    else if c = '{' then ⟨.wrongType .object wanted, t, 0⟩
    else if c = '"' then
      match Quotation.read rest with
      | .error fault => fault
      | .ok (value, rest) => ⟨.wrongType (.text value) wanted, rest, 0⟩
    else
      match Scalar.read .endInValue t with
      | .error fault => fault
      | .ok (value, rest) =>
        match value.found with
        | .error unread => ⟨.numberOutOfRange, unread ++ rest, 0⟩
        | .ok found => ⟨.wrongType found wanted, rest, 0⟩

/-- Whether a list goes on, and what follows its end or its comma. -/
def item (isFirst : Bool) (t : Text) : Except Fault (Bool × Text) :=
  match skipSpace t with
  | [] => .error (.atNext .endInList [])
  | c :: rest =>
    if c = ']' then .ok (false, rest)
    else if isFirst then .ok (true, c :: rest)
    else if c = ',' then
      match skipSpace rest with
      | [] => .error (.atNext .endInValue [])
      | d :: rest =>
        if d = ']' then .error (.atNext .trailingComma (d :: rest)) else .ok (true, d :: rest)
    else .error (.atNext .noListEnd (c :: rest))

/-- The quoted name of a member. -/
def name (t : Text) : Except Fault (Text × Text) :=
  match t with
  | '"' :: rest => Quotation.read rest
  | _ => .error (.atNext .noKey t)

/-- The name of the next member of an object, none at its end. -/
def member (isFirst : Bool) (t : Text) : Except Fault (Option Text × Text) :=
  match skipSpace t with
  | [] => .error (.atNext .endInObject [])
  | c :: rest =>
    if c = '}' then .ok (none, rest)
    else if isFirst then (name (c :: rest)).map fun (name, rest) => (some name, rest)
    else if c = ',' then
      match skipSpace rest with
      | [] => .error (.atNext .endInValue [])
      | d :: rest =>
        if d = '}' then .error (.atNext .trailingComma (d :: rest))
        else (name (d :: rest)).map fun (name, rest) => (some name, rest)
    else .error (.atNext .noObjectEnd (c :: rest))

theorem length_of_item {isFirst more : Bool} {t rest : Text}
    (h : item isFirst t = .ok (more, rest)) :
    rest.length + (if more then 0 else 1) ≤ t.length := by
  have hspace := length_skipSpace_le t
  unfold item at h
  split at h
  · cases h
  · next c tail heq =>
    rw [heq, List.length_cons] at hspace
    split at h
    · cases h; exact hspace
    · split at h
      · cases h; exact hspace
      · split at h
        · split at h
          · cases h
          · next heq' =>
            have hspace' := length_skipSpace_le tail
            split at h
            · cases h
            · cases h
              rw [heq'] at hspace'
              simp only [if_true]
              omega
        · cases h

theorem length_of_name {t rest value : Text} (h : name t = .ok (value, rest)) :
    rest.length < t.length := by
  unfold name at h
  split at h
  · exact Nat.lt_succ_of_lt (Quotation.length_of_read h)
  · cases h

theorem length_of_map_name {t rest : Text} {value : Option Text}
    (h : ((name t).map fun (name, rest) => (some name, rest)) = .ok (value, rest)) :
    rest.length < t.length := by
  cases hname : name t with
  | error => rw [hname] at h; cases h
  | ok result => rw [hname] at h; cases h; exact length_of_name hname

theorem length_of_member {isFirst : Bool} {t rest : Text} {value : Option Text}
    (h : member isFirst t = .ok (value, rest)) : rest.length < t.length := by
  have hspace := length_skipSpace_le t
  unfold member at h
  split at h
  · cases h
  · next c tail heq =>
    rw [heq, List.length_cons] at hspace
    split at h
    · cases h; exact hspace
    · split at h
      · have := length_of_map_name h
        simp only [List.length_cons] at this
        omega
      · split at h
        · split at h
          · cases h
          · next heq' =>
            have hspace' := length_skipSpace_le tail
            rw [heq'] at hspace'
            split at h
            · cases h
            · have := length_of_map_name h
              omega
        · cases h

variable {α β σ : Type}

def map (f : α → β) (reader : Reader α) : Reader β where
  run t := do
    let (a, rest) ← reader.run t
    return (f a, rest)
  shorter := by
    intro t b rest h
    simp only [bind_eq_ok_iff, Prod.exists] at h
    obtain ⟨_, _, hrun, h⟩ := h
    cases h
    exact reader.shorter hrun

/-- A string. -/
def text : Reader Text where
  run t :=
    match skipSpace t with
    | '"' :: rest => Quotation.read rest
    | t => .error (mismatch "a string" t)
  shorter := by
    intro t value rest h
    have hspace := length_skipSpace_le t
    split at h
    · next heq =>
      have := Quotation.length_of_read h
      rw [heq, List.length_cons] at hspace
      omega
    · cases h

/-- The word `null` stands for a value, too. -/
def orNull (blank : α) (reader : Reader α) : Reader α where
  run t :=
    match skipSpace t with
    | 'n' :: rest => (word "ull".toList rest).map (blank, ·)
    | _ => reader.run t
  shorter := by
    intro t value rest h
    have hspace := length_skipSpace_le t
    split at h
    · next tail heq =>
      rw [heq, List.length_cons] at hspace
      cases hw : word "ull".toList tail with
      | error => rw [hw] at h; cases h
      | ok left =>
        rw [hw] at h
        cases h
        have := length_of_word hw
        omega
    · exact reader.shorter h

/-- The next element of a list. The state is the elements so far. -/
def itemTurn (reader : Reader α) : Turn (List α) where
  run items t := do
    let (more, rest) ← item items.isEmpty t
    if more then
      let (a, rest) ← reader.run rest
      return (some (items ++ [a]), rest)
    else return (none, rest)
  shorter := by
    intro items t next rest h
    simp only [bind_eq_ok_iff, Prod.exists] at h
    obtain ⟨more, left, hitem, h⟩ := h
    have hle := length_of_item hitem
    cases more with
    | false => cases h; exact hle
    | true =>
      simp only [if_true, bind_eq_ok_iff, Prod.exists] at h
      obtain ⟨_, _, hrun, h⟩ := h
      cases h
      exact Nat.lt_of_lt_of_le (reader.shorter hrun) hle

def list (reader : Reader α) : Reader (List α) where
  run t :=
    match skipSpace t with
    | '[' :: rest => (itemTurn reader).loop [] rest
    | t => .error (mismatch "a sequence" t)
  shorter := by
    intro t items rest h
    have hspace := length_skipSpace_le t
    split at h
    · next heq =>
      have := (itemTurn reader).loop_shorter h
      rw [heq, List.length_cons] at hspace
      omega
    · cases h

/-- The next member of an object. The state is the members so far. -/
def memberTurn (reader : Reader α) : Turn (List (Text × α)) where
  run members t := do
    let (name?, rest) ← member members.isEmpty t
    match name? with
    | none => return (none, rest)
    | some name =>
      let (a, rest) ← reader.run (← colon rest)
      return (some (members ++ [(name, a)]), rest)
  shorter := by
    intro members t next rest h
    simp only [bind_eq_ok_iff, Prod.exists] at h
    obtain ⟨name?, left, hmember, h⟩ := h
    have hlt := length_of_member hmember
    split at h
    · cases h; exact hlt
    · simp only [bind_eq_ok_iff, Prod.exists] at h
      obtain ⟨_, hcolon, _, _, hrun, h⟩ := h
      cases h
      have := length_of_colon hcolon
      have := reader.shorter hrun
      omega

/-- The members of an object, in order, with every name allowed and repeated names kept. -/
def object (reader : Reader α) : Reader (List (Text × α)) where
  run t :=
    match skipSpace t with
    | '{' :: rest => (memberTurn reader).loop [] rest
    | t => .error (mismatch "a map" t)
  shorter := by
    intro t items rest h
    have hspace := length_skipSpace_le t
    split at h
    · next heq =>
      have := (memberTurn reader).loop_shorter h
      rw [heq, List.length_cons] at hspace
      omega
    · cases h

/-- The value of a whole text, in which only space may follow it. -/
def document (reader : Reader α) (t : Text) : Except Fault α := do
  let (a, rest) ← reader.run t
  if skipSpace rest = [] then return a
  else .error (.atNext .trailingCharacters (skipSpace rest))

end Reader

end ThemeCascade.Json
