import ThemeCascade.Json.Reader

/-! Records with named fields. A record is written as an object, in which fields may be missing and
other members are passed over, or as a list of its fields in order. -/

namespace ThemeCascade.Json

/-- A field of a record, read into a change of the record. -/
structure Field (σ : Type) where
  name : Text
  reader : Reader (σ → σ)

/-- The fields of a record in order, and the record in which none of them was given. -/
structure Fields (σ : Type) where
  title : String
  blank : σ
  fields : List (Field σ)

namespace Fields

variable {σ : Type}

def find? (fields : Fields σ) (name : Text) : Option (Field σ) :=
  fields.fields.find? (·.name = name)

/-- A field that is given twice is found after its second name; space and a closing brace that come
next still count as read. -/
def repeated (name t : Text) : Fault :=
  match skipSpace t with
  | '}' :: rest => ⟨.repeatedField name, rest, 0⟩
  | rest => ⟨.repeatedField name, rest, 0⟩

/-- The next member of a record that is written as an object. The state is the names so far and the
record. Members of other names are passed over. -/
def memberTurn (fields : Fields σ) : Turn (List Text × σ) where
  run state t := do
    let (name?, rest) ← Reader.member state.1.isEmpty t
    match name? with
    | none => return (none, rest)
    | some name =>
      match fields.find? name with
      | none => return (some (state.1 ++ [name], state.2), ← pass (← colon rest))
      | some field =>
        if state.1.contains name then .error (repeated name rest)
        else
          let (set, rest) ← field.reader.run (← colon rest)
          return (some (state.1 ++ [name], set state.2), rest)
  shorter := by
    intro state t next rest h
    simp only [bind_eq_ok_iff, Prod.exists] at h
    obtain ⟨name?, left, hmember, h⟩ := h
    have hlt := Reader.length_of_member hmember
    split at h
    · cases h; exact hlt
    · split at h
      · simp only [bind_eq_ok_iff] at h
        obtain ⟨_, hcolon, _, hpass, h⟩ := h
        cases h
        have := length_of_colon hcolon
        have := length_of_pass hpass
        omega
      · next field _ =>
        split at h
        · cases h
        · simp only [bind_eq_ok_iff, Prod.exists] at h
          obtain ⟨_, hcolon, _, _, hrun, h⟩ := h
          cases h
          have := length_of_colon hcolon
          have := field.reader.shorter hrun
          omega

/-- The end of a list in which every field was given. -/
def closeList (t : Text) : Except Fault Text :=
  match skipSpace t with
  | [] => .error (.atNext .endInList [])
  | c :: rest =>
    if c = ']' then .ok rest
    else if c = ',' then
      .error (.atNext
        (if (skipSpace rest).head? = some ']' then .trailingComma else .trailingCharacters)
        (skipSpace rest))
    else .error (.atNext .trailingCharacters (c :: rest))

/-- A record that is written as a list, after its opening bracket. A list that ends early leaves out
the fields that remain. -/
def positional (isFirst : Bool) (record : σ) :
    List (Field σ) → Text → Except Fault (σ × Text)
  | [], t => do return (record, ← closeList t)
  | field :: fields, t => do
    let (more, rest) ← Reader.item isFirst t
    if more then
      let (set, rest) ← field.reader.run rest
      positional false (set record) fields rest
    else return (record, rest)

theorem length_of_closeList {t rest : Text} (h : closeList t = .ok rest) :
    rest.length < t.length := by
  have hspace := length_skipSpace_le t
  unfold closeList at h
  split at h
  · cases h
  · next heq =>
    rw [heq, List.length_cons] at hspace
    split at h
    · cases h; exact hspace
    · split at h <;> cases h

theorem length_of_positional {isFirst : Bool} {record result : σ} {fields : List (Field σ)}
    {t rest : Text} (h : positional isFirst record fields t = .ok (result, rest)) :
    rest.length < t.length := by
  induction fields generalizing isFirst record t with
  | nil =>
    simp only [positional, bind_eq_ok_iff] at h
    obtain ⟨_, hclose, h⟩ := h
    cases h
    exact length_of_closeList hclose
  | cons field fields ih =>
    simp only [positional, bind_eq_ok_iff, Prod.exists] at h
    obtain ⟨more, left, hitem, h⟩ := h
    have hle := Reader.length_of_item hitem
    cases more with
    | false => cases h; exact hle
    | true =>
      simp only [if_true, bind_eq_ok_iff, Prod.exists] at h
      obtain ⟨_, _, hrun, h⟩ := h
      have := field.reader.shorter hrun
      have := ih h
      simp only [if_true] at hle
      omega

def reader (fields : Fields σ) : Reader σ where
  run t :=
    match skipSpace t with
    | '{' :: rest => do
      let (state, rest) ← fields.memberTurn.loop ([], fields.blank) rest
      return (state.2, rest)
    | '[' :: rest => positional true fields.blank fields.fields rest
    | t => .error (Reader.mismatch fields.title t)
  shorter := by
    intro t record rest h
    have hspace := length_skipSpace_le t
    split at h
    · next heq =>
      simp only [bind_eq_ok_iff, Prod.exists] at h
      obtain ⟨_, _, _, hloop, h⟩ := h
      cases h
      have := fields.memberTurn.loop_shorter hloop
      rw [heq, List.length_cons] at hspace
      omega
    · next heq =>
      have := length_of_positional h
      rw [heq, List.length_cons] at hspace
      omega
    · cases h

end Fields

end ThemeCascade.Json
