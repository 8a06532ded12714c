import ThemeCascade.Proofs.Json.Reading

/-! # Decoding values

A decoder takes a value for data where a reader takes a text. A reader goes by a decoder if from every
text that writes a value it reads what the decoder makes of the value, and finds a fault where the decoder
makes nothing of it. Then it makes no difference how a value is written. -/

namespace ThemeCascade.Json

open List

variable {α β σ : Type}

/-! ## Decoders -/

abbrev Decoder (α : Type) := Value → Option α

/-- All the entries of a list, if none is missing. -/
def collect : List (Option α) → Option (List α)
  | [] => some []
  | entry :: entries => entry.bind fun a => (collect entries).map (a :: ·)

theorem collect_eq_some_iff {entries : List (Option α)} {l : List α} :
    collect entries = some l ↔ entries = l.map some := by
  induction entries generalizing l with
  | nil => cases l <;> simp [collect]
  | cons entry entries ih =>
      cases entry with
      | none => cases l <;> simp [collect]
      | some a => cases l <;> simp [collect, ih, and_comm]

theorem map_collect (f : α → β) (entries : List (Option α)) :
    (collect entries).map (List.map f) = collect (entries.map (Option.map f)) := by
  induction entries with
  | nil => rfl
  | cons entry entries ih =>
      cases entry with
      | none => rfl
      | some a =>
          rw [map_cons, collect, collect, ← ih]
          simp [Function.comp_def]

namespace Decoder

def text : Decoder Text
  | .text value => some value
  | _ => none

def map (f : α → β) (decode : Decoder α) : Decoder β := fun value => (decode value).map f

def orNull (blank : α) (decode : Decoder α) : Decoder α
  | .null => some blank
  | value => decode value

def list (decode : Decoder α) : Decoder (List α)
  | .list items => collect (items.map decode)
  | _ => none

/-- A member with its value decoded. -/
def entry (decode : Decoder α) (member : Text × Value) : Option (Text × α) :=
  (decode member.2).map (member.1, ·)

def object (decode : Decoder α) : Decoder (List (Text × α))
  | .object members => collect (members.map decode.entry)
  | _ => none

end Decoder

/-! ## Results without their faults -/

@[simp] theorem toOption_ok {ε : Type} (a : α) : (Except.ok a : Except ε α).toOption = some a := rfl

theorem toOption_eq_some_iff {ε : Type} {x : Except ε α} {a : α} : x.toOption = some a ↔ x = .ok a := by
  cases x <;> simp [Except.toOption]

theorem toOption_bind {ε : Type} (x : Except ε α) (f : α → Except ε β) :
    (x >>= f).toOption = x.toOption.bind fun a => (f a).toOption := by
  cases x <;> rfl

theorem Turn.toOption_loop (turn : Turn σ) (state : σ) (t : Text) :
    (turn.loop state t).toOption = (turn.run state t).toOption.bind fun (next, rest) =>
      next.elim (some (state, rest)) fun next => (turn.loop next rest).toOption := by
  rw [turn.loop_eq]
  cases turn.run state t with
  | error => rfl
  | ok result =>
      obtain ⟨next, rest⟩ := result
      cases next <;> rfl

/-! ## Readers that go by a decoder -/

namespace Reader

/-- However the value is written, the reader reads `a` and leaves what follows. -/
def Takes (reader : Reader α) (value : Value) (a : α) : Prop :=
  ∀ ⦃space t : Text⦄, IsSpace space → Writes value t → ∀ rest,
    reader.run (space ++ (t ++ rest)) = .ok (a, rest)

/-- Of every value the reader takes what the decoder makes of it, and of no other value anything. -/
def Decodes (reader : Reader α) (decode : Decoder α) : Prop :=
  ∀ ⦃space t : Text⦄ ⦃value : Value⦄, IsSpace space → Writes value t → ∀ rest,
    (reader.run (space ++ (t ++ rest))).toOption = (decode value).map (·, rest)

variable {reader : Reader α} {decode : Decoder α} {value : Value} {a : α}

theorem Decodes.takes (h : reader.Decodes decode) (hvalue : decode value = some a) :
    reader.Takes value a := by
  intro space t hspace ht rest
  apply toOption_eq_some_iff.mp
  rw [h hspace ht rest, hvalue]
  rfl

theorem document_of_run {t rest : Text} (hrun : reader.run t = .ok (a, rest)) (hrest : IsSpace rest) :
    reader.document t = .ok a := by
  have hend : skipSpace rest = [] := by simpa [skipSpace] using skipSpace_append hrest []
  simp [Reader.document, hrun, hend, bind, Except.bind, pure, Except.pure]

theorem Takes.document (h : reader.Takes value a) {t : Text} (ht : WritesDocument value t) :
    reader.document t = .ok a := by
  cases ht with
  | intro hbefore ht hafter =>
      rw [append_assoc]
      exact document_of_run (h hbefore ht _) hafter

theorem Decodes.document (h : reader.Decodes decode) {t : Text} (ht : WritesDocument value t) :
    (reader.document t).toOption = decode value := by
  cases hvalue : decode value with
  | some a => rw [(h.takes hvalue).document ht, toOption_ok]
  | none =>
      cases ht with
      | intro hbefore ht hafter =>
          rw [append_assoc, Reader.document, toOption_bind, h hbefore ht, hvalue]
          rfl

theorem Decodes.map (h : reader.Decodes decode) (f : α → β) : (reader.map f).Decodes (decode.map f) := by
  intro space t value hspace ht rest
  simp only [Reader.map, toOption_bind, h hspace ht rest, Decoder.map]
  cases decode value <;> rfl

theorem decodes_text : Reader.text.Decodes Decoder.text := by
  intro space t value hspace ht rest
  obtain ⟨c, u, rfl, hc⟩ := ht.head
  simp only [Reader.text, cons_append]
  rw [skipSpace_append_cons hspace hc.not_closing.1]
  split
  · next heq =>
    obtain ⟨rfl, rfl⟩ := List.cons.inj heq
    obtain ⟨content, rfl⟩ := hc.eq_text
    cases ht with
    | text hchars =>
        rw [read_of_writesChars hchars rest]
        rfl
  · next hquote =>
    cases hc with
    | text => exact absurd rfl (hquote _)
    | null | true | false | number _ | list | object => rfl

theorem orNull_null (blank : α) : (reader.orNull blank).Takes .null blank := by
  intro space t hspace ht rest
  cases ht with
  | null =>
      change (reader.orNull blank).run (space ++ 'n' :: ("ull".toList ++ rest)) = _
      simp only [Reader.orNull]
      rw [skipSpace_append_cons hspace rfl]
      simp only [word_append]
      rfl

theorem Decodes.orNull (h : reader.Decodes decode) (blank : α) :
    (reader.orNull blank).Decodes (decode.orNull blank) := by
  intro space t value hspace ht rest
  by_cases hvalue : value = .null
  · subst hvalue
    rw [orNull_null blank hspace ht rest]
    rfl
  · have hdecode : decode.orNull blank value = decode value := by
      cases value with
      | null => exact absurd rfl hvalue
      | boolean _ | number _ | text _ | list _ | object _ => rfl
    have hrun := h hspace ht rest
    obtain ⟨c, u, rfl, hc⟩ := ht.head
    simp only [Reader.orNull, cons_append, hdecode]
    rw [skipSpace_append_cons hspace hc.not_closing.1]
    split
    · next heq =>
      obtain ⟨rfl, -⟩ := List.cons.inj heq
      exact absurd hc.eq_null hvalue
    · exact hrun

/-! ## Lists and objects -/

/-- From any items read so far, the turns append the items that are written. -/
theorem toOption_itemTurn_loop (h : reader.Decodes decode) {items : List Value} {isFirst : Bool} {t : Text}
    (ht : WritesItems isFirst items t) {before : List α} (hbefore : before.isEmpty = isFirst)
    (rest : Text) :
    ((itemTurn reader).loop before (t ++ rest)).toOption =
      (collect (items.map decode)).map fun l => (before ++ l, rest) := by
  induction items generalizing isFirst t before with
  | nil =>
      cases ht with
      | close hspace =>
          rw [Turn.toOption_loop, append_assoc, singleton_append]
          simp [itemTurn, item_close _ hspace, bind, Except.bind, pure, Except.pure, collect,
            Except.toOption]
  | cons value items ih =>
      cases ht with
      | @item _ _ _ space after t u hspace hafter hvalue hitems =>
          have hitem := item_comma isFirst hspace hafter hvalue (u ++ rest)
          have hrun : (reader.run (t ++ (u ++ rest))).toOption = _ := h isSpace_nil hvalue (u ++ rest)
          have hturn : (itemTurn reader).run before (space ++ comma isFirst ++ after ++ t ++ u ++ rest) =
              (reader.run (t ++ (u ++ rest)) >>= fun result =>
                .ok (some (before ++ [result.1]), result.2)) := by
            simp only [append_assoc, itemTurn, hbefore, hitem]
            rfl
          rw [Turn.toOption_loop, hturn, toOption_bind, hrun, map_cons, collect]
          cases decode value with
          | none => rfl
          | some a =>
              have hloop := ih hitems (show (before ++ [a]).isEmpty = false by simp)
              simp [hloop, Function.comp_def]

theorem Decodes.list (h : reader.Decodes decode) : reader.list.Decodes (Decoder.list decode) := by
  intro space t value hspace ht rest
  obtain ⟨c, u, rfl, hc⟩ := ht.head
  simp only [Reader.list, cons_append]
  rw [skipSpace_append_cons hspace hc.not_closing.1]
  split
  · next heq =>
    obtain ⟨rfl, rfl⟩ := List.cons.inj heq
    obtain ⟨items, rfl⟩ := hc.eq_list
    cases ht with
    | list hitems => exact toOption_itemTurn_loop h hitems rfl rest
  · next hlist =>
    cases hc with
    | list => exact absurd rfl (hlist _)
    | null | true | false | number _ | text | object => rfl

/-- From any members read so far, the turns append the members that are written. -/
theorem toOption_memberTurn_loop (h : reader.Decodes decode) {members : List (Text × Value)}
    {isFirst : Bool} {t : Text} (ht : WritesMembers isFirst members t) {before : List (Text × α)}
    (hbefore : before.isEmpty = isFirst) (rest : Text) :
    ((memberTurn reader).loop before (t ++ rest)).toOption =
      (collect (members.map decode.entry)).map fun entries => (before ++ entries, rest) := by
  induction members generalizing isFirst t before with
  | nil =>
      cases ht with
      | close hspace =>
          rw [Turn.toOption_loop, append_assoc, singleton_append]
          simp [memberTurn, member_close _ hspace, bind, Except.bind, pure, Except.pure, collect,
            Except.toOption]
  | cons member members ih =>
      cases ht with
      | @member _ name nameText value _ space after beforeColon afterColon t u hspace hafter hchars
          hbeforeColon hafterColon hvalue hmembers =>
          have hmember := member_comma isFirst hspace hafter hchars
            (beforeColon ++ ':' :: (afterColon ++ (t ++ (u ++ rest))))
          have hcolon := colon_append hbeforeColon (afterColon ++ (t ++ (u ++ rest)))
          have hrun := h hafterColon hvalue (u ++ rest)
          have hturn : (memberTurn reader).run before
              (space ++ comma isFirst ++ after ++ '"' :: nameText ++ beforeColon ++
                ':' :: afterColon ++ t ++ u ++ rest) =
              (reader.run (afterColon ++ (t ++ (u ++ rest))) >>= fun result =>
                .ok (some (before ++ [(name, result.1)]), result.2)) := by
            simp only [append_assoc, cons_append, memberTurn, hbefore, hmember, hcolon, bind, Except.bind]
            rfl
          rw [Turn.toOption_loop, hturn, toOption_bind, hrun, map_cons, collect, Decoder.entry]
          cases decode value with
          | none => rfl
          | some a =>
              have hloop := ih hmembers (show (before ++ [(name, a)]).isEmpty = false by simp)
              simp [hloop, Function.comp_def]

theorem Decodes.object (h : reader.Decodes decode) : reader.object.Decodes (Decoder.object decode) := by
  intro space t value hspace ht rest
  obtain ⟨c, u, rfl, hc⟩ := ht.head
  simp only [Reader.object, cons_append]
  rw [skipSpace_append_cons hspace hc.not_closing.1]
  split
  · next heq =>
    obtain ⟨rfl, rfl⟩ := List.cons.inj heq
    obtain ⟨members, rfl⟩ := hc.eq_object
    cases ht with
    | object hmembers => exact toOption_memberTurn_loop h hmembers rfl rest
  · next hobject =>
    cases hc with
    | object => exact absurd rfl (hobject _)
    | null | true | false | number _ | text | list => rfl

end Reader

end ThemeCascade.Json
