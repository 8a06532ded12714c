import ThemeCascade.Proofs.Json.Reading

/-! # Passing over values

Every value that is written can be passed over, whatever brackets are open before it. What is passed over
is not asked for anything: no name, no string and no number in it makes a difference. -/

namespace ThemeCascade.Json

/-! ## What follows a value -/

theorem endsNumber_cons {c : Char} (h : c = ',' ∨ c = ']' ∨ c = '}' ∨ isSpace c = true) (t : Text) :
    EndsNumber (c :: t) := by
  rintro d hd
  obtain rfl := Option.some.inj hd
  have hcases : c = ',' ∨ c = ']' ∨ c = '}' ∨ c = ' ' ∨ c = '\t' ∨ c = '\n' ∨ c = '\r' := by
    simpa only [isSpace, Bool.or_eq_true, decide_eq_true_eq, or_assoc] using h
  rcases hcases with rfl | rfl | rfl | rfl | rfl | rfl | rfl <;> decide

/-- Space ends a number, too. -/
theorem endsNumber_append {space : Text} (hspace : IsSpace space) {c : Char}
    (h : c = ',' ∨ c = ']' ∨ c = '}') (t : Text) : EndsNumber (space ++ c :: t) := by
  cases space with
  | nil => exact endsNumber_cons (h.imp_right (Or.imp_right .inl)) t
  | cons d space => exact endsNumber_cons (.inr (.inr (.inr (hspace d (by simp))))) _

theorem WritesItems.endsNumber {items : List Value} {t : Text} (h : WritesItems false items t)
    (rest : Text) : EndsNumber (t ++ rest) := by
  cases h with
  | close hspace => simpa using endsNumber_append hspace (.inr (.inl rfl)) rest
  | item hspace _ _ _ => simpa [comma] using endsNumber_append hspace (.inl rfl) _

theorem WritesMembers.endsNumber {members : List (Text × Value)} {t : Text}
    (h : WritesMembers false members t) (rest : Text) : EndsNumber (t ++ rest) := by
  cases h with
  | close hspace => simpa using endsNumber_append hspace (.inr (.inr rfl)) rest
  | member hspace _ _ _ _ _ _ => simpa [comma] using endsNumber_append hspace (.inl rfl) _

def Bracket.opening : Bracket → Char
  | list => '['
  | object => '{'

namespace Passing

variable {opened : List Bracket} {bracket : Bracket} {space t rest : Text}

/-! ## Reading on -/

/-- What is left when no bracket is open any more. -/
def finish : Option State → Text → Except Fault Text
  | none, t => .ok t
  | some state, t => do return (← turn.loop state t).2

theorem finish_some (state : State) (t : Text) :
    finish (some state) t = turn.run state t >>= fun (next, rest) => finish next rest := by
  simp only [finish]
  rw [Turn.loop_eq]
  cases turn.run state t with
  | error => rfl
  | ok result =>
      obtain ⟨next, rest⟩ := result
      cases next with
      | none => rfl
      | some next => rfl

theorem finish_of_run {state : State} {next : Option State}
    (h : turn.run state t = .ok (next, rest)) : finish (some state) t = finish next rest := by
  rw [finish_some, h]
  rfl

/-- What follows an opening bracket, or a value behind it. -/
def part (isFirst : Bool) (bracket : Bracket) (opened : List Bracket) (t : Text) :
    Except Fault (Option State × Text) :=
  if isFirst then enter bracket opened t else separator bracket opened t

def finishPart (isFirst : Bool) (bracket : Bracket) (opened : List Bracket) (t : Text) :
    Except Fault Text := do
  let (next, rest) ← part isFirst bracket opened t
  finish next rest

theorem finishPart_of_part {isFirst : Bool} {next : Option State}
    (h : part isFirst bracket opened t = .ok (next, rest)) :
    finishPart isFirst bracket opened t = finish next rest := by
  rw [finishPart, h]
  rfl

theorem finish_after_cons (bracket : Bracket) (opened : List Bracket) (t : Text) :
    finish (after (bracket :: opened)) t = finishPart false bracket opened t := finish_some _ t

/-! ## Parts of lists and objects -/

theorem not_isSpace_closing (bracket : Bracket) : isSpace bracket.closing = false := by
  cases bracket <;> rfl

theorem part_close (isFirst : Bool) (bracket : Bracket) (hspace : IsSpace space) (rest : Text) :
    part isFirst bracket opened (space ++ bracket.closing :: rest) = .ok (after opened, rest) := by
  have hskip := skipSpace_append_cons hspace (not_isSpace_closing bracket) rest
  cases isFirst with
  | true => simp [part, enter, hskip]
  | false => simp [part, separator, hskip]

/-- The next value is behind its comma and behind space. -/
theorem part_comma (isFirst : Bool) (bracket : Bracket) (opened : List Bracket) {before after : Text}
    {c : Char} (hbefore : IsSpace before) (hafter : IsSpace after) (hspace : isSpace c = false)
    (hclosing : c ≠ bracket.closing) (rest : Text) :
    ∃ space, IsSpace space ∧
      part isFirst bracket opened (before ++ (comma isFirst ++ (after ++ c :: rest))) =
        entry bracket opened (space ++ c :: rest) := by
  cases isFirst with
  | true =>
      refine ⟨[], isSpace_nil, ?_⟩
      simp [part, comma, enter, skipSpace_append hbefore, skipSpace_append_cons hafter hspace, hclosing]
  | false =>
      refine ⟨after, hafter, ?_⟩
      have hcomma : ',' ≠ bracket.closing := by cases bracket <;> decide
      simp [part, comma, separator, skipSpace_append_cons hbefore (show isSpace ',' = false from rfl),
        hcomma]

theorem name_append {value between : Text} (hspace : IsSpace space) (ht : WritesChars value t)
    (hbetween : IsSpace between) (rest : Text) :
    name (space ++ '"' :: (t ++ (between ++ ':' :: rest))) = .ok rest := by
  unfold name
  rw [skipSpace_append_cons hspace rfl]
  simp [pass_of_writesChars ht, Reader.colon_append hbetween, bind, Except.bind]

theorem finishPart_item (isFirst : Bool) (opened : List Bracket) {before after : Text} {value : Value}
    (hbefore : IsSpace before) (hafter : IsSpace after) (ht : Writes value t) (rest : Text) :
    ∃ space, IsSpace space ∧
      finishPart isFirst .list opened (before ++ (comma isFirst ++ (after ++ (t ++ rest)))) =
        finish (some (.before (.list :: opened))) (space ++ (t ++ rest)) := by
  obtain ⟨c, u, rfl, hc⟩ := ht.head
  obtain ⟨hskip, hclosing⟩ := hc.not_closing
  obtain ⟨space, hspace, hpart⟩ :=
    part_comma isFirst .list opened hbefore hafter hskip hclosing (u ++ rest)
  exact ⟨space, hspace, finishPart_of_part hpart⟩

theorem finishPart_member (isFirst : Bool) {before after name nameText beforeColon : Text}
    (hbefore : IsSpace before) (hafter : IsSpace after) (hname : WritesChars name nameText)
    (hcolon : IsSpace beforeColon) (rest : Text) :
    finishPart isFirst .object opened
        (before ++ (comma isFirst ++ (after ++ '"' :: (nameText ++ (beforeColon ++ ':' :: rest))))) =
      finish (some (.before (.object :: opened))) rest := by
  obtain ⟨space, hspace, hpart⟩ :=
    part_comma isFirst .object opened hbefore hafter
      (show isSpace '"' = false from rfl) (by decide) (nameText ++ (beforeColon ++ ':' :: rest))
  apply finishPart_of_part
  rw [hpart]
  simp [entry, name_append hspace hname hcolon, bind, Except.bind, pure, Except.pure]

/-! ## Values -/

/-- The first character tells that a scalar comes next. -/
theorem finish_scalar {c : Char} {scalar : Scalar} (hspace : IsSpace space)
    (hc : isSpace c = false ∧ c ≠ '"' ∧ c ≠ '[' ∧ c ≠ '{')
    (hread : Scalar.read .badNumber (c :: t) = .ok (scalar, rest)) :
    finish (some (.before opened)) (space ++ c :: t) = finish (after opened) rest := by
  apply finish_of_run
  obtain ⟨hskip, hquote, hlist, hobject⟩ := hc
  simp [turn, value, skipSpace_append_cons hspace hskip, hquote, hlist, hobject, hread, bind,
    Except.bind, pure, Except.pure]

theorem finish_number {number : Number} (hspace : IsSpace space)
    (ht : WritesNumber number t) (hrest : EndsNumber rest) :
    finish (some (.before opened)) (space ++ (t ++ rest)) = finish (after opened) rest := by
  have hread : Scalar.read .badNumber (t ++ rest) = .ok (.number number, rest) :=
    Scalar.read_number ht hrest
  obtain ⟨c, u, rfl, hc⟩ := ht.head
  have hbegins : (Value.number number).Begins c := .number hc
  refine finish_scalar hspace ⟨hbegins.not_closing.1, ?_, ?_, ?_⟩ hread <;>
    (rintro rfl; exact absurd hc (by decide))

theorem finish_text {content : Text} (hspace : IsSpace space) (ht : WritesChars content t) :
    finish (some (.before opened)) (space ++ '"' :: (t ++ rest)) = finish (after opened) rest := by
  apply finish_of_run
  simp [turn, value, skipSpace_append_cons hspace (show isSpace '"' = false from rfl),
    pass_of_writesChars ht, bind, Except.bind, pure, Except.pure]

theorem finish_opening (hspace : IsSpace space) (bracket : Bracket) (opened : List Bracket) (t : Text) :
    finish (some (.before opened)) (space ++ bracket.opening :: t) = finishPart true bracket opened t := by
  have hskip : isSpace bracket.opening = false := by cases bracket <;> rfl
  have hrun : turn.run (.before opened) (space ++ bracket.opening :: t) = enter bracket opened t := by
    cases bracket <;> simp [turn, value, skipSpace_append_cons hspace hskip] <;> rfl
  rw [finish_some, hrun]
  rfl

mutual

/-- Whatever brackets are open, reading goes on behind the value. -/
theorem finish_value : ∀ (value : Value) {opened : List Bracket} {space t rest : Text}, IsSpace space →
    Writes value t → EndsNumber rest →
      finish (some (.before opened)) (space ++ (t ++ rest)) = finish (after opened) rest
  | .null, _, _, _, rest, hspace, .null, _ =>
      finish_scalar hspace (by decide) (Scalar.read_word (fun _ => rfl) rest)
  | .boolean _, _, _, _, rest, hspace, .true, _ =>
      finish_scalar hspace (by decide) (Scalar.read_word (fun _ => rfl) rest)
  | .boolean _, _, _, _, rest, hspace, .false, _ =>
      finish_scalar hspace (by decide) (Scalar.read_word (fun _ => rfl) rest)
  | .number _, _, _, _, _, hspace, .number ht, hrest => finish_number hspace ht hrest
  | .text _, _, _, _, _, hspace, .text ht, _ => finish_text hspace ht
  | .list items, _, _, _, _, hspace, .list ht, _ =>
      (finish_opening hspace .list _ _).trans (finishPart_items items ht)
  | .object members, _, _, _, _, hspace, .object ht, _ =>
      (finish_opening hspace .object _ _).trans (finishPart_members members ht)

theorem finishPart_items : ∀ (items : List Value) {isFirst : Bool} {opened : List Bracket} {t rest : Text},
    WritesItems isFirst items t → finishPart isFirst .list opened (t ++ rest) = finish (after opened) rest
  | [], isFirst, opened, _, rest, .close hspace => by
      rw [List.append_assoc]
      exact finishPart_of_part (part_close isFirst .list hspace rest)
  | value :: items, isFirst, opened, _, rest, .item hbefore hafter hvalue hitems => by
      obtain ⟨space, hspace, hitem⟩ := finishPart_item isFirst opened hbefore hafter hvalue _
      simp only [List.append_assoc]
      rw [hitem, finish_value value hspace hvalue (hitems.endsNumber rest), finish_after_cons,
        finishPart_items items hitems]

theorem finishPart_members : ∀ (members : List (Text × Value)) {isFirst : Bool} {opened : List Bracket}
    {t rest : Text}, WritesMembers isFirst members t →
      finishPart isFirst .object opened (t ++ rest) = finish (after opened) rest
  | [], isFirst, opened, _, rest, .close hspace => by
      rw [List.append_assoc]
      exact finishPart_of_part (part_close isFirst .object hspace rest)
  | (name, value) :: members, isFirst, opened, _, rest,
      .member hbefore hafter hname hbeforeColon hafterColon hvalue hmembers => by
      simp only [List.append_assoc, List.cons_append]
      rw [finishPart_member isFirst hbefore hafter hname hbeforeColon,
        finish_value value hafterColon hvalue (hmembers.endsNumber rest), finish_after_cons,
        finishPart_members members hmembers]

end

end Passing

/-- Every value that is written can be passed over, if a number at its end is not continued. -/
theorem pass_of_writes {space : Text} (hspace : IsSpace space) {value : Value} {t : Text}
    (ht : Writes value t) {rest : Text} (hrest : EndsNumber rest) :
    pass (space ++ (t ++ rest)) = .ok rest := by
  have hfinish : Passing.finish (some (.before [])) (space ++ (t ++ rest)) = .ok rest :=
    Passing.finish_value value hspace ht hrest
  exact hfinish

end ThemeCascade.Json
