import ThemeCascade.Json.Fields
import ThemeCascade.Proofs.Json.Decoding
import ThemeCascade.Proofs.Json.Passing

/-! # Decoding records

A record is decoded into the changes that its fields make. Members of other names make no difference,
whatever their values are. -/

namespace ThemeCascade.Json

open List

variable {σ : Type}

/-! ## Schemas -/

/-- A change of a record, under the name of the field that makes it. -/
abbrev Change (σ : Type) := Text × (σ → σ)

/-- The fields of a record by name, each decoded into a change, and the record before all changes. -/
structure Schema (σ : Type) where
  blank : σ
  fields : List (Text × Decoder (σ → σ))

namespace Schema

/-- What a member of an object makes of the record, if it names a field. -/
def change? (schema : Schema σ) (member : Text × Value) : Option (Option (Change σ)) :=
  (schema.fields.lookup member.1).map fun decode => decode.entry member

/-- The record after some changes, one after another. -/
def changed (record : σ) (changes : List (Change σ)) : σ :=
  changes.foldl (fun record change => change.2 record) record

/-- A record is written as an object that gives each field at most once, or as a list of its first
fields in order. -/
def decode (schema : Schema σ) : Decoder σ
  | .object members =>
    (collect (members.filterMap schema.change?)).bind fun changes =>
      if (changes.map Prod.fst).Nodup then some (changed schema.blank changes) else none
  | .list items =>
    if items.length ≤ schema.fields.length then
      (collect (zipWith (fun field item => field.2.entry (field.1, item)) schema.fields items)).map
        (changed schema.blank)
    else none
  | _ => none

theorem change?_of_map {α : Type} {schema : Schema σ} {name : Text} {value : Value} {decode : Decoder α}
    {f : α → σ → σ} {a : α} (hlookup : schema.fields.lookup name = some (decode.map f))
    (hvalue : decode value = some a) : schema.change? (name, value) = some (some (name, f a)) := by
  simp [change?, hlookup, Decoder.entry, Decoder.map, hvalue]

/-- An object gives a record if each of its members makes a change. -/
theorem decode_object {schema : Schema σ} {members : List (Text × Value)} {changes : List (Change σ)}
    (h : Forall₂ (fun member change => schema.change? member = some (some change)) members changes)
    (hnames : (changes.map Prod.fst).Nodup) :
    schema.decode (.object members) = some (changed schema.blank changes) := by
  have hchanges : members.filterMap schema.change? = changes.map some := by
    clear hnames
    induction h with
    | nil => rfl
    | cons hchange _ ih => rw [filterMap_cons_some hchange, ih, map_cons]
  rw [decode, collect_eq_some_iff.mpr hchanges, Option.bind_some, if_pos hnames]

end Schema

/-! ## Readers of records -/

namespace Fields

/-- The field is read as the schema decodes it. -/
structure Follows (field : Field σ) (entry : Text × Decoder (σ → σ)) : Prop where
  name_eq : field.name = entry.1
  decodes : field.reader.Decodes entry.2

variable {fields : Fields σ} {schema : Schema σ}

theorem Follows.of_map {α : Type} {reader : Reader α} {decode : Decoder α} (h : reader.Decodes decode)
    (name : Text) (f : α → σ → σ) : Follows ⟨name, reader.map f⟩ (name, decode.map f) :=
  ⟨rfl, h.map f⟩

/-- A field is found if and only if the schema has its name. -/
theorem find?_of_lookup {l : List (Field σ)} {k : List (Text × Decoder (σ → σ))} (h : Forall₂ Follows l k)
    (name : Text) :
    match k.lookup name with
    | none => l.find? (·.name = name) = none
    | some decode => ∃ field, l.find? (·.name = name) = some field ∧ field.reader.Decodes decode := by
  induction h with
  | nil => rfl
  | @cons field entry l k hfield _ ih =>
      obtain ⟨name', decode⟩ := entry
      obtain ⟨rfl, hdecodes⟩ := hfield
      by_cases hname : field.name = name
      · subst hname
        simpa using hdecodes
      · have hlookup : (name == field.name) = false := by simpa using fun h => hname h.symm
        simpa [find?_cons, lookup_cons, hname, hlookup] using ih

/-! ## Records that are written as objects -/

/-- Every field is given once, and none that was given before. -/
def Fresh (names : List Text) (changes : List (Change σ)) : Prop :=
  (changes.map Prod.fst).Nodup ∧ ∀ name ∈ changes.map Prod.fst, name ∉ names

instance (names : List Text) (changes : List (Change σ)) : Decidable (Fresh names changes) :=
  inferInstanceAs (Decidable (_ ∧ _))

theorem fresh_nil_iff {changes : List (Change σ)} : Fresh [] changes ↔ (changes.map Prod.fst).Nodup := by
  simp [Fresh]

theorem fresh_cons_iff {names : List Text} {change : Change σ} {changes : List (Change σ)} :
    Fresh names (change :: changes) ↔ change.1 ∉ names ∧ Fresh (names ++ [change.1]) changes := by
  simp only [Fresh, map_cons, nodup_cons, forall_mem_cons, mem_append, mem_singleton]
  constructor
  · rintro ⟨⟨hnew, hnodup⟩, hname, hnames⟩
    exact ⟨hname, hnodup, fun name hmem hor => hor.elim (hnames name hmem) fun heq => hnew (heq ▸ hmem)⟩
  · rintro ⟨hname, hnodup, hnames⟩
    exact ⟨⟨fun hmem => hnames _ hmem (.inr rfl), hnodup⟩, hname,
      fun name hmem h => hnames name hmem (.inl h)⟩

/-- The record and what follows it, if every field is given once. -/
def finish (names : List Text) (record : σ) (rest : Text) (changes : List (Change σ)) :
    Option (σ × Text) :=
  if Fresh names changes then some (Schema.changed record changes, rest) else none

theorem bind_finish_cons {names : List Text} {record : σ} {rest : Text} {change : Change σ}
    (changes? : Option (List (Change σ))) :
    (changes?.map (change :: ·)).bind (finish names record rest) =
      if change.1 ∈ names then none
      else changes?.bind (finish (names ++ [change.1]) (change.2 record) rest) := by
  cases changes? with
  | none => simp
  | some changes =>
      by_cases hname : change.1 ∈ names
      · simp [finish, fresh_cons_iff, hname]
      · simp [finish, fresh_cons_iff, hname, Schema.changed]

theorem memberTurn_close (state : List Text × σ) {space : Text} (hspace : IsSpace space) (rest : Text) :
    fields.memberTurn.run state (space ++ '}' :: rest) = .ok (none, rest) := by
  simp [memberTurn, Reader.member_close _ hspace, bind, Except.bind, pure, Except.pure]

/-- A member of another name is passed over; one that names a field is refused if the field was given, and
changes the record else. -/
theorem memberTurn_member (h : Forall₂ Follows fields.fields schema.fields)
    {name nameText before after beforeColon afterColon t rest : Text} {value : Value}
    {names : List Text} {isFirst : Bool} (hnames : names.isEmpty = isFirst) (record : σ)
    (hbefore : IsSpace before) (hafter : IsSpace after) (hname : WritesChars name nameText)
    (hbeforeColon : IsSpace beforeColon) (hafterColon : IsSpace afterColon) (ht : Writes value t)
    (hrest : EndsNumber rest) :
    (fields.memberTurn.run (names, record)
        (before ++ comma isFirst ++ after ++ '"' :: nameText ++ beforeColon ++ ':' :: afterColon ++ t ++
          rest)).toOption =
      match schema.change? (name, value) with
      | none => some (some (names ++ [name], record), rest)
      | some change =>
        if name ∈ names then none
        else change.map fun change => (some (names ++ [name], change.2 record), rest) := by
  have hmember := Reader.member_comma isFirst hbefore hafter hname
    (beforeColon ++ ':' :: (afterColon ++ (t ++ rest)))
  have hcolon := Reader.colon_append hbeforeColon (afterColon ++ (t ++ rest))
  have hfind := find?_of_lookup h name
  simp only [append_assoc, cons_append] at hmember ⊢
  simp only [memberTurn, hnames, hmember, hcolon, Fields.find?, Schema.change?, bind, Except.bind]
  cases hlookup : schema.fields.lookup name with
  | none =>
      simp only [hlookup] at hfind
      simp [hfind, pass_of_writes hafterColon ht hrest, pure, Except.pure]
  | some decode =>
      simp only [hlookup] at hfind
      obtain ⟨field, hfield, hdecodes⟩ := hfind
      have hrun := hdecodes hafterColon ht rest
      by_cases hmem : name ∈ names
      · simp [hfield, hmem, Except.toOption]
      · have hchange : ((field.reader.run (afterColon ++ (t ++ rest))) >>= fun result =>
            pure (some (names ++ [name], result.1 record), result.2)).toOption =
              (decode value).map fun f => (some (names ++ [name], f record), rest) := by
          rw [toOption_bind, hrun]
          cases decode value <;> rfl
        simpa [hfield, hmem, Decoder.entry, Function.comp_def, bind, Except.bind] using hchange

/-- The names of other members are remembered, too, but may come again. -/
def known (schema : Schema σ) (names : List Text) : List Text :=
  names.filter fun name => (schema.fields.lookup name).isSome

theorem known_append_of_none {name : Text} (h : schema.fields.lookup name = none) (names : List Text) :
    known schema (names ++ [name]) = known schema names := by
  simp [known, h]

theorem known_append_of_some {name : Text} {decode : Decoder (σ → σ)}
    (h : schema.fields.lookup name = some decode) (names : List Text) :
    known schema (names ++ [name]) = known schema names ++ [name] := by
  simp [known, h]

theorem mem_known_iff {name : Text} {decode : Decoder (σ → σ)} {names : List Text}
    (h : schema.fields.lookup name = some decode) : name ∈ known schema names ↔ name ∈ names := by
  simp [known, h]

/-- From any names and any record so far, the turns make the changes of the members that are written. -/
theorem toOption_memberTurn_loop (h : Forall₂ Follows fields.fields schema.fields)
    {members : List (Text × Value)} {isFirst : Bool} {t : Text} (ht : WritesMembers isFirst members t)
    {names : List Text} (hnames : names.isEmpty = isFirst) (record : σ) (rest : Text) :
    (fields.memberTurn.loop (names, record) (t ++ rest)).toOption.map
        (fun (state, rest) => (state.2, rest)) =
      (collect (members.filterMap schema.change?)).bind (finish (known schema names) record rest) := by
  induction members generalizing isFirst t names record with
  | nil =>
      cases ht with
      | close hspace =>
          rw [append_assoc, singleton_append, Turn.toOption_loop, memberTurn_close _ hspace]
          simp [collect, finish, Fresh, Schema.changed]
  | cons member members ih =>
      cases ht with
      | @member _ name nameText value _ space after beforeColon afterColon t u hspace hafter hchars
          hbeforeColon hafterColon hvalue hmembers =>
          have hturn := memberTurn_member h hnames record hspace hafter hchars hbeforeColon hafterColon hvalue
            (hmembers.endsNumber rest)
          have hloop := fun record =>
            ih hmembers (show (names ++ [name]).isEmpty = false by simp) record
          rw [append_assoc _ u rest, Turn.toOption_loop, hturn]
          cases hlookup : schema.fields.lookup name with
          | none =>
              have hchange : schema.change? (name, value) = none := by simp [Schema.change?, hlookup]
              simp [hchange, hloop, filterMap_cons_none hchange, known_append_of_none hlookup]
          | some decode =>
              have hchange : schema.change? (name, value) = some (decode.entry (name, value)) := by
                simp [Schema.change?, hlookup]
              rw [filterMap_cons_some hchange, collect]
              cases hvalue' : decode value with
              | none => simp [hchange, Decoder.entry, hvalue']
              | some f =>
                  rw [Decoder.entry, hvalue', Option.map_some, Option.bind_some, bind_finish_cons]
                  by_cases hmem : name ∈ names
                  · simp [hchange, Decoder.entry, hvalue', hmem, mem_known_iff hlookup]
                  · simp [hchange, Decoder.entry, hvalue', hmem, mem_known_iff hlookup, hloop,
                      known_append_of_some hlookup]

/-! ## Records that are written as lists -/

theorem closeList_close {space : Text} (hspace : IsSpace space) (rest : Text) :
    closeList (space ++ ']' :: rest) = .ok rest := by
  simp [closeList, skipSpace_append_cons hspace (show isSpace ']' = false from rfl)]

/-- A list with more items than fields is refused. -/
theorem closeList_comma (isFirst : Bool) {before after t : Text} {value : Value} (hbefore : IsSpace before)
    (hafter : IsSpace after) (ht : Writes value t) (rest : Text) :
    (closeList (before ++ (comma isFirst ++ (after ++ (t ++ rest))))).toOption = none := by
  obtain ⟨c, u, rfl, hc⟩ := ht.head
  obtain ⟨hspace, hclosing⟩ := hc.not_closing
  cases isFirst with
  | true =>
      have hskip : skipSpace (before ++ (comma true ++ (after ++ (c :: u ++ rest)))) = c :: (u ++ rest) := by
        simp [comma, skipSpace_append hbefore, skipSpace_append_cons hafter hspace]
      simp only [closeList, hskip, if_neg hclosing]
      split <;> rfl
  | false =>
      simp [closeList, comma, skipSpace_append_cons hbefore (show isSpace ',' = false from rfl),
        Except.toOption]

theorem positional_item (isFirst : Bool) {before after t : Text} {value : Value} (hbefore : IsSpace before)
    (hafter : IsSpace after) (ht : Writes value t) (record : σ) (field : Field σ) (l : List (Field σ))
    (rest : Text) :
    positional isFirst record (field :: l) (before ++ comma isFirst ++ after ++ t ++ rest) =
      (field.reader.run (t ++ rest) >>= fun (f, rest) => positional false (f record) l rest) := by
  have hitem := Reader.item_comma isFirst hbefore hafter ht rest
  simp only [append_assoc, positional, hitem]
  rfl

/-- The changes that the items of a list make, one for each field as long as there are items. -/
theorem toOption_positional {l : List (Field σ)} {k : List (Text × Decoder (σ → σ))}
    (h : Forall₂ Follows l k) {items : List Value} {isFirst : Bool} {t : Text}
    (ht : WritesItems isFirst items t) (record : σ) (rest : Text) :
    (positional isFirst record l (t ++ rest)).toOption =
      if items.length ≤ k.length then
        (collect (zipWith (fun field item => field.2.entry (field.1, item)) k items)).map fun changes =>
          (Schema.changed record changes, rest)
      else none := by
  induction h generalizing isFirst items t record with
  | nil =>
      cases ht with
      | close hspace =>
          simp [positional, closeList_close hspace, collect, Schema.changed, bind, Except.bind, pure,
            Except.pure]
      | @item _ _ items _ _ _ u hspace hafter hvalue hitems =>
          have hclose := closeList_comma isFirst hspace hafter hvalue (u ++ rest)
          simp only [append_assoc] at hclose ⊢
          rw [positional, toOption_bind, hclose]
          rfl
  | @cons field entry l k hfield _ ih =>
      cases ht with
      | close hspace =>
          simp [positional, Reader.item_close isFirst hspace, collect, Schema.changed, bind, Except.bind,
            pure, Except.pure]
      | @item _ value items _ _ t u hspace hafter hvalue hitems =>
          have hrun : (field.reader.run (t ++ (u ++ rest))).toOption = _ :=
            hfield.decodes isSpace_nil hvalue (u ++ rest)
          rw [append_assoc _ u rest, positional_item isFirst hspace hafter hvalue, toOption_bind, hrun]
          cases hvalue' : entry.2 value with
          | none => simp [collect, Decoder.entry, hvalue']
          | some f =>
              simp [collect, Decoder.entry, hvalue', ih hitems, Schema.changed, Function.comp_def]

/-! ## Records in either form -/

/-- A record is read by the schema that its fields follow. -/
theorem decodes (hblank : fields.blank = schema.blank) (h : Forall₂ Follows fields.fields schema.fields) :
    fields.reader.Decodes schema.decode := by
  intro space t value hspace ht rest
  obtain ⟨c, u, rfl, hc⟩ := ht.head
  simp only [Fields.reader, cons_append, hblank]
  rw [skipSpace_append_cons hspace hc.not_closing.1]
  split
  · next heq =>
    obtain ⟨rfl, rfl⟩ := List.cons.inj heq
    obtain ⟨members, rfl⟩ := hc.eq_object
    cases ht with
    | object hmembers =>
        have hloop := toOption_memberTurn_loop h hmembers (show ([] : List Text).isEmpty = true from rfl)
          schema.blank rest
        have hfinish (changes : List (Change σ)) : finish (known schema []) schema.blank rest changes =
            (if (changes.map Prod.fst).Nodup then some (Schema.changed schema.blank changes)
              else none).map (·, rest) := by
          by_cases hnodup : (changes.map Prod.fst).Nodup <;> simp [finish, known, fresh_nil_iff, hnodup]
        rw [toOption_bind, Schema.decode, Option.map_bind]
        simp only [Function.comp_def, ← hfinish, ← hloop]
        cases (fields.memberTurn.loop ([], schema.blank) (u ++ rest)).toOption <;> rfl
  · next heq =>
    obtain ⟨rfl, rfl⟩ := List.cons.inj heq
    obtain ⟨items, rfl⟩ := hc.eq_list
    cases ht with
    | list hitems =>
        rw [toOption_positional h hitems, Schema.decode]
        split <;> simp [Function.comp_def]
  · next hobject hlist =>
    cases hc with
    | object => exact absurd rfl (hobject _)
    | list => exact absurd rfl (hlist _)
    | null | true | false | number _ | text => rfl

end Fields

end ThemeCascade.Json
