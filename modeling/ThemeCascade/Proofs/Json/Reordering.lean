import Mathlib.Data.List.Nodup
import Mathlib.Data.List.Pairwise
import ThemeCascade.Proofs.Json.Order
import ThemeCascade.Proofs.Json.Records

/-! # Decoding in any order

A decoder ignores order if it makes the same of a value with distinct names and of every reordering of it.
Each way to put decoders together keeps this, as long as what is made of an object does not depend on the
order of its members. -/

namespace ThemeCascade.Json

open List

variable {α β σ : Type}

/-! ## Recovery -/

namespace Reader

/-- However the value is reordered and then written, the reader reads `a`. -/
def Recovers (reader : Reader α) (value : Value) (a : α) : Prop :=
  ∀ ⦃value' : Value⦄, value.Reordered value' → reader.Takes value' a

theorem Recovers.document {reader : Reader α} {value value' : Value} {a : α} (h : reader.Recovers value a)
    (hvalue : value.Reordered value') {t : Text} (ht : WritesDocument value' t) :
    reader.document t = .ok a :=
  (h hvalue).document ht

end Reader

/-! ## Values -/

namespace Decoder

def IgnoresOrder (decode : Decoder α) : Prop :=
  ∀ ⦃value value' : Value⦄, value.IsDistinct → value.Reordered value' → decode value' = decode value

variable {decode : Decoder α}

theorem IgnoresOrder.recovers (h : decode.IgnoresOrder) {reader : Reader α} (hreader : reader.Decodes decode)
    {value : Value} (hdistinct : value.IsDistinct) {a : α} (hvalue : decode value = some a) :
    reader.Recovers value a := by
  intro value' hreordered
  apply hreader.takes
  rw [h hdistinct hreordered, hvalue]

theorem ignoresOrder_text : Decoder.text.IgnoresOrder := by
  intro value value' _ h
  cases h <;> rfl

theorem IgnoresOrder.map (h : decode.IgnoresOrder) (f : α → β) : (decode.map f).IgnoresOrder := by
  intro value value' hdistinct hvalue
  rw [Decoder.map, Decoder.map, h hdistinct hvalue]

theorem IgnoresOrder.orNull (h : decode.IgnoresOrder) (blank : α) :
    (decode.orNull blank).IgnoresOrder := by
  intro value value' hdistinct hvalue
  have hdecode := h hdistinct hvalue
  cases hvalue with
  | null => rfl
  | boolean | number | text | list _ | object _ _ => exact hdecode

theorem IgnoresOrder.list (h : decode.IgnoresOrder) : decode.list.IgnoresOrder := by
  intro value value' hdistinct hvalue
  cases hvalue with
  | list hitems =>
      cases hdistinct with
      | list hdistinct =>
          rw [Decoder.list, Decoder.list,
            map_eq_of_forall₂ hitems fun item hmem item' => h (hdistinct item hmem)]
  | null | boolean | number | text | object _ _ => rfl

theorem IgnoresOrder.entry_eq (h : decode.IgnoresOrder) {member member' : Text × Value}
    (hdistinct : member.2.IsDistinct) (hmember : Named Value.Reordered member member') :
    decode.entry member' = decode.entry member := by
  cases hmember with
  | intro hvalue => rw [entry, entry, h hdistinct hvalue]

theorem map_orNull (f : α → β) (blank : α) (decode : Decoder α) :
    (decode.orNull blank).map f = (decode.map f).orNull (f blank) := by
  funext value
  cases value <;> rfl

end Decoder

/-! ## Objects -/

/-- In another order the same entries are collected, in that order. -/
theorem collect_perm {entries entries' : List (Option α)} (h : entries ~ entries') {l : List α}
    (hl : collect entries = some l) : ∃ l', collect entries' = some l' ∧ l ~ l' := by
  have hsome : Forall₂ (fun entry a => entry = some a) entries l := by
    rw [collect_eq_some_iff.mp hl, forall₂_map_left_iff, forall₂_same]
    exact fun _ _ => rfl
  obtain ⟨l', hsome', hperm⟩ := perm_comp_forall₂ h.symm hsome
  refine ⟨l', ?_, hperm.symm⟩
  rwa [collect_eq_some_iff, ← forall₂_eq_eq_eq, forall₂_map_right_iff]

theorem bind_collect_perm {entries entries' : List (Option α)} (h : entries ~ entries')
    {f : List α → Option β} (hf : ∀ l l', collect entries = some l → l ~ l' → f l' = f l) :
    (collect entries').bind f = (collect entries).bind f := by
  cases hl : collect entries with
  | some l =>
      obtain ⟨l', hl', hperm⟩ := collect_perm h hl
      rw [hl', Option.bind_some, Option.bind_some, hf l l' hl hperm]
  | none =>
      cases hl' : collect entries' with
      | none => rfl
      | some l' =>
          obtain ⟨l, hl'', -⟩ := collect_perm h.symm hl'
          rw [hl] at hl''
          cases hl''

/-- Entries have the names of their members. -/
theorem Decoder.map_entry_fst {decode : Decoder α} {members : List (Text × Value)}
    {entries : List (Text × α)} (h : collect (members.map decode.entry) = some entries) :
    entries.map Prod.fst = members.map Prod.fst := by
  have hentries := collect_eq_some_iff.mp h
  clear h
  induction members generalizing entries with
  | nil =>
      obtain rfl := map_eq_nil_iff.mp hentries.symm
      rfl
  | cons member members ih =>
      obtain ⟨entry, entries, rfl, hentry, htail⟩ := map_eq_cons_iff.mp hentries.symm
      obtain ⟨a, -, rfl⟩ := Option.map_eq_some_iff.mp hentry.symm
      rw [map_cons, map_cons, ih htail.symm]

/-- Entries may be put together in a way that does not tell their orders apart. -/
theorem Decoder.IgnoresOrder.object {decode : Decoder α} (h : decode.IgnoresOrder)
    {f : List (Text × α) → β}
    (hf : ∀ entries entries', (entries.map Prod.fst).Nodup → entries ~ entries' → f entries' = f entries) :
    (decode.object.map f).IgnoresOrder := by
  intro value value' hdistinct hvalue
  cases hvalue with
  | object hmembers hperm =>
      cases hdistinct with
      | object hnames hdistinct =>
          have hentries := map_eq_of_forall₂ hmembers fun member hmem member' =>
            h.entry_eq (hdistinct member hmem)
          simp only [Decoder.map, Decoder.object, Option.map_eq_bind, ← hentries]
          refine bind_collect_perm (hperm.map decode.entry) fun entries entries' hcollect hperm => ?_
          rw [hentries] at hcollect
          rw [Function.comp_apply, hf entries entries' (decode.map_entry_fst hcollect ▸ hnames) hperm]
          rfl
  | null | boolean | number | text | list _ => rfl

/-! ## Records -/

/-- The two fields change different parts of the record. -/
def Decoder.Commutes (decode decode' : Decoder (σ → σ)) : Prop :=
  ∀ ⦃value value' : Value⦄ ⦃f f' : σ → σ⦄, decode value = some f → decode' value' = some f' →
    ∀ record, f' (f record) = f (f' record)

theorem Decoder.Commutes.of_map {decode : Decoder α} {decode' : Decoder β} {f : α → σ → σ}
    {f' : β → σ → σ} (h : ∀ a b record, f' b (f a record) = f a (f' b record)) :
    (decode.map f).Commutes (decode'.map f') := by
  intro value value' g g' hg hg' record
  obtain ⟨a, -, rfl⟩ := Option.map_eq_some_iff.mp hg
  obtain ⟨b, -, rfl⟩ := Option.map_eq_some_iff.mp hg'
  exact h a b record

instance : Std.Symm (fun entry entry' : Text × Decoder (σ → σ) => entry.2.Commutes entry'.2) where
  symm _ _ h _ _ _ _ hf hf' record := (h hf' hf record).symm

namespace Schema

variable {schema : Schema σ}

theorem mem_of_lookup {name : Text} {decode : Decoder (σ → σ)} (h : schema.fields.lookup name = some decode) :
    (name, decode) ∈ schema.fields := by
  obtain ⟨before, after, hfields, -⟩ := lookup_eq_some_iff.mp h
  simp [hfields]

/-- The change is what a field makes of some value. -/
def Makes (schema : Schema σ) (change : Change σ) : Prop :=
  ∃ decode value, (change.1, decode) ∈ schema.fields ∧ decode value = some change.2

/-- Every change is what the field that a member names makes of the member's value. -/
theorem exists_member {members : List (Text × Value)} {changes : List (Change σ)}
    (h : collect (members.filterMap schema.change?) = some changes) {change : Change σ}
    (hchange : change ∈ changes) : change.1 ∈ members.map Prod.fst ∧ schema.Makes change := by
  have hmem : some change ∈ members.filterMap schema.change? := by
    rw [collect_eq_some_iff.mp h]
    exact mem_map_of_mem hchange
  obtain ⟨⟨name, value⟩, hmember, hmakes⟩ := mem_filterMap.mp hmem
  obtain ⟨decode, hlookup, hentry⟩ := Option.map_eq_some_iff.mp hmakes
  obtain ⟨f, hf, rfl⟩ := Option.map_eq_some_iff.mp hentry
  exact ⟨mem_map.mpr ⟨(name, value), hmember, rfl⟩, decode, value, mem_of_lookup hlookup, hf⟩

/-- Changes of different fields may be made in any order. -/
theorem changed_perm (h : schema.fields.Pairwise fun entry entry' => entry.2.Commutes entry'.2)
    {changes changes' : List (Change σ)} (hmakes : ∀ change ∈ changes, schema.Makes change)
    (hnames : (changes.map Prod.fst).Nodup) (hperm : changes ~ changes') (record : σ) :
    changed record changes' = changed record changes := by
  refine (hperm.foldl_eq' ?_ record).symm
  intro change hchange change' hchange' record
  by_cases hname : change.1 = change'.1
  · rw [inj_on_of_nodup_map hnames hchange hchange' hname]
  · obtain ⟨decode, value, hmem, hf⟩ := hmakes change hchange
    obtain ⟨decode', value', hmem', hf'⟩ := hmakes change' hchange'
    have hne : (change.1, decode) ≠ (change'.1, decode') := fun heq => hname (Prod.mk.inj heq).1
    exact h.forall hmem hmem' hne hf hf' record

/-- The members of a record may change places. -/
theorem decode_perm (h : schema.fields.Pairwise fun entry entry' => entry.2.Commutes entry'.2)
    {members members' : List (Text × Value)} (hperm : members ~ members') :
    schema.decode (.object members') = schema.decode (.object members) := by
  rw [decode, decode]
  refine bind_collect_perm (hperm.filterMap schema.change?) fun changes changes' hcollect hperm => ?_
  have hnames := (hperm.map Prod.fst).nodup_iff
  by_cases hnodup : (changes.map Prod.fst).Nodup
  · rw [if_pos hnodup, if_pos (hnames.mp hnodup),
      changed_perm h (fun _ hchange => (exists_member hcollect hchange).2) hnodup hperm]
  · rw [if_neg hnodup, if_neg fun h => hnodup (hnames.mpr h)]

theorem change?_eq (hfields : ∀ entry ∈ schema.fields, entry.2.IgnoresOrder) {member member' : Text × Value}
    (hdistinct : member.2.IsDistinct) (hmember : Named Value.Reordered member member') :
    schema.change? member' = schema.change? member := by
  rw [change?, change?, hmember.name_eq]
  cases hlookup : schema.fields.lookup member'.1 with
  | none => rfl
  | some decode =>
      have hdecode : decode.IgnoresOrder := hfields _ (mem_of_lookup hlookup)
      rw [Option.map_some, Option.map_some, hdecode.entry_eq hdistinct hmember]

/-- A record whose fields change different parts of it may be written in any order. -/
theorem ignoresOrder (h : schema.fields.Pairwise fun entry entry' => entry.2.Commutes entry'.2)
    (hfields : ∀ entry ∈ schema.fields, entry.2.IgnoresOrder) : schema.decode.IgnoresOrder := by
  intro value value' hdistinct hvalue
  cases hvalue with
  | @object members within members' hmembers hperm =>
      cases hdistinct with
      | object _ hdistinct =>
          have hmap := map_eq_of_forall₂ hmembers fun member hmem member' =>
            change?_eq hfields (hdistinct member hmem)
          have hchanges : within.filterMap schema.change? = members.filterMap schema.change? := by
            simpa [filterMap_map] using congrArg (filterMap id) hmap
          rw [decode_perm h hperm, decode, decode, hchanges]
  | list hitems =>
      cases hdistinct with
      | list hdistinct =>
          rw [decode, decode, ← hitems.length_eq]
          congr 3
          apply zipWith_eq_of_forall₂ hitems
          intro field hfield item hitem item' hvalue
          exact (hfields field hfield).entry_eq (hdistinct item hitem) (.intro hvalue)
  | null | boolean | number | text => rfl

end Schema

end ThemeCascade.Json
