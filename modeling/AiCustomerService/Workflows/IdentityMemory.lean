import AiCustomerService.Workflows.SopMemory

/-!
# Where an identity in the slot memory comes from

The planning and the handlers write the identity of the customer from what they read in a text and
from the plans of a language model.  An identity that some predicate vouches for at every such
place is vouched for in the slot memory that the node leaves.
-/

namespace AiCustomerService

open Support

/-- `"user_text"` or `"confirmed_by_user"`. -/
def isTrusted (rt : Runtime) (source : Json) : Bool :=
  ["user_text", "confirmed_by_user"].contains (rt.lower (source.textOrEmpty rt))

/-- The source that `_identity_slot_present` reads. -/
def identitySource (memory : JsonObject) : Json :=
  ((slotAt "identity_source" memory).orElse (slotAt "phone_source" memory)).orElse
    (slotAt "account_or_phone_source" memory)

/-- A source with which an identity that is no hint counts as present. -/
def isPresentSource (rt : Runtime) (source : Json) : Bool :=
  !(["image", "ocr", "llm_or_image", "image_analysis"].contains
    (rt.lower (source.textOrEmpty rt)))

theorem isPresentSource_of_isTrusted {rt : Runtime} {source : Json}
    (h : isTrusted rt source = true) : isPresentSource rt source = true := by
  unfold isTrusted at h
  unfold isPresentSource
  rcases List.mem_cons.mp (List.contains_iff_mem.mp h) with htext | hconfirmed
  · rw [htext]
    decide
  · rw [List.mem_singleton.mp hconfirmed]
    decide

/-- The slot memory says that the customer named the identity. -/
def isConfirmed (rt : Runtime) (memory : JsonObject) : Bool := isTrusted rt (identitySource memory)

/-- The identity that `_identity_slot_present` reads. -/
def identityValue (memory : JsonObject) : Json :=
  (slotAt "phone" memory).orElse (slotAt "account_or_phone" memory)

/-- Every entry of `identityMemoryKeys` is a slot or a source. -/
theorem mem_identityMemoryKeys {key : String} (h : key ∈ identityMemoryKeys) :
    key ∈ identitySlotKeys ∨ key ∈ identitySourceKeys :=
  List.mem_append.mp h

theorem mem_of_slot {key : String} (h : key ∈ identitySlotKeys) : key ∈ identityMemoryKeys :=
  List.mem_append_left _ h

theorem mem_of_source {key : String} (h : key ∈ identitySourceKeys) : key ∈ identityMemoryKeys :=
  List.mem_append_right _ h

theorem untouched_of_identity {key : String} (h : key ∈ identityMemoryKeys) : key ∈ untouchedKeys :=
  List.mem_append_right _ h

section

variable {rt : Runtime} {Vouched : Json → Prop} {start memory result updates : JsonObject}

/-- The identity that the slot memory holds, if there is one, is vouched for. -/
def IdentityVouched (Vouched : Json → Prop) (memory : JsonObject) : Prop :=
  (identityValue memory).truthy = true → Vouched (identityValue memory)

/-- The identity in the slot memory has not become one that nobody vouches for. -/
structure Sound (rt : Runtime) (Vouched : Json → Prop) (start memory : JsonObject) : Prop where
  phone : (slotAt "phone" memory).truthy = true → Vouched (slotAt "phone" memory)
  account : slotAt "account_or_phone" memory = slotAt "account_or_phone" start ∨
    Vouched (slotAt "account_or_phone" memory)
  stays : ∀ key ∈ "phone" :: identitySourceKeys, (slotAt key start).truthy = true →
    (slotAt key memory).truthy = true
  source : ∀ key ∈ identitySourceKeys, (slotAt key memory).truthy = true →
    isPresentSource rt (slotAt key memory) = true →
      slotAt key memory = slotAt key start ∨ IdentityVouched Vouched memory
  value : IdentityVouched Vouched start → IdentityVouched Vouched memory

theorem Sound.refl (h : (slotAt "phone" start).truthy = true → Vouched (slotAt "phone" start)) :
    Sound rt Vouched start start :=
  ⟨h, .inl rfl, fun _ _ hkey => hkey, fun _ _ _ _ => .inl rfl, id⟩

theorem textOrEmpty_of_not_truthy {value : Json} (h : ¬value.truthy = true) :
    value.textOrEmpty rt = "" := by
  unfold Json.textOrEmpty Json.orElse
  rw [if_neg h]
  rfl

/-- Where the source lets an identity count as present, it is the one of before, or the identity
is vouched for. -/
theorem Sound.of_source (h : Sound rt Vouched start memory)
    (hpresent : isPresentSource rt (identitySource memory) = true) :
    (identitySource memory).textOrEmpty rt = (identitySource start).textOrEmpty rt ∨
      IdentityVouched Vouched memory := by
  have hstays (key : String) (hkey : key ∈ identitySourceKeys)
      (hnone : ¬(slotAt key memory).truthy = true) : ¬(slotAt key start).truthy = true :=
    fun hstart => hnone (h.stays key (List.mem_cons_of_mem _ hkey) hstart)
  unfold identitySource Json.orElse at hpresent ⊢
  by_cases hsource : (slotAt "identity_source" memory).truthy = true
  · rw [if_pos hsource, if_pos hsource] at hpresent ⊢
    refine (h.source _ (by decide) hsource hpresent).imp_left fun hsame => ?_
    rw [hsame] at hsource ⊢
    rw [if_pos hsource, if_pos hsource]
  · have hsource' := hstays _ (by decide) hsource
    rw [if_neg hsource] at hpresent ⊢
    rw [if_neg hsource']
    by_cases hphone : (slotAt "phone_source" memory).truthy = true
    · rw [if_pos hphone] at hpresent ⊢
      refine (h.source _ (by decide) hphone hpresent).imp_left fun hsame => ?_
      rw [hsame] at hphone ⊢
      rw [if_pos hphone]
    · have hphone' := hstays _ (by decide) hphone
      rw [if_neg hphone] at hpresent ⊢
      rw [if_neg hphone']
      by_cases haccount : (slotAt "account_or_phone_source" memory).truthy = true
      · refine (h.source _ (by decide) haccount hpresent).imp_left fun hsame => ?_
        rw [hsame]
      · rw [textOrEmpty_of_not_truthy haccount,
          textOrEmpty_of_not_truthy (hstays _ (by decide) haccount)]
        exact .inl rfl

/-- An identity of which the memory says that the customer named it is vouched for, unless the
memory said so before. -/
theorem Sound.of_confirmed (h : Sound rt Vouched start memory)
    (hconfirmed : isConfirmed rt memory = true) :
    isConfirmed rt start = true ∨ IdentityVouched Vouched memory := by
  refine (h.of_source (isPresentSource_of_isTrusted hconfirmed)).imp_left fun hsame => ?_
  unfold isConfirmed isTrusted at hconfirmed ⊢
  rw [← hsame]
  exact hconfirmed

/-- An identity that has become present is vouched for. -/
theorem Sound.of_present (h : Sound rt Vouched start memory) {tables : SlotTables}
    (hpresent : identitySlotPresent rt tables memory = true)
    (hbefore : identitySlotPresent rt tables start = false) : Vouched (identityValue memory) := by
  have hvalue : (identityValue memory).truthy = true := by
    unfold identitySlotPresent at hpresent
    simp only [Bool.and_eq_true] at hpresent
    exact hpresent.1
  have hsource : isPresentSource rt (identitySource memory) = true := by
    unfold identitySlotPresent at hpresent
    simp only [Bool.and_eq_true, Bool.or_eq_true] at hpresent
    rcases hpresent.2 with htrusted | hplain
    · exact isPresentSource_of_isTrusted htrusted
    · exact hplain.1
  rcases h.of_source hsource with hsame | hvouched
  · by_cases hphone : (slotAt "phone" memory).truthy = true
    · have hidentity : identityValue memory = slotAt "phone" memory := if_pos hphone
      rw [hidentity]
      exact h.phone hphone
    · have hidentity : identityValue memory = slotAt "account_or_phone" memory := if_neg hphone
      rcases h.account with haccount | hvouched
      · have hstart : identityValue start = slotAt "account_or_phone" start :=
          if_neg fun hstart => hphone (h.stays "phone" List.mem_cons_self hstart)
        have hidentities : identityValue memory = identityValue start := by
          rw [hidentity, hstart, haccount]
        -- the same identity with the same source was present before
        have hpresents : identitySlotPresent rt tables memory =
            identitySlotPresent rt tables start := by
          change ((identityValue memory).truthy &&
              (["user_text", "confirmed_by_user"].contains
                  (rt.lower ((identitySource memory).textOrEmpty rt)) ||
                !(["image", "ocr", "llm_or_image", "image_analysis"].contains
                    (rt.lower ((identitySource memory).textOrEmpty rt))) &&
                  !looksLikeImageIdentityHint rt tables (identityValue memory))) = _
          rw [hidentities, hsame]
          rfl
        rw [hpresents, hbefore] at hpresent
        cases hpresent
      · rw [hidentity]
        exact hvouched
  · exact hvouched hvalue

/-- A slot that has changed is vouched for. -/
theorem Sound.of_changed (h : Sound rt Vouched start memory) {key : String}
    (hkey : key ∈ identitySlotKeys) (hvalue : (slotAt key memory).truthy = true)
    (hchanged : slotAt key memory ≠ slotAt key start) : Vouched (slotAt key memory) := by
  rcases List.mem_cons.mp hkey with rfl | hphone
  · exact h.account.resolve_left hchanged
  · obtain rfl := List.mem_singleton.mp hphone
    exact h.phone hvalue

/-! ## Updates -/

/-- The entries of a dictionary that are not empty are laid over the identity of a slot memory. -/
def Overlays (updates memory result : JsonObject) : Prop :=
  ∀ key ∈ identityMemoryKeys,
    (∃ value, (key, value) ∈ updates.entries ∧ value.truthy = true ∧ slotAt key result = value) ∨
    ((∀ value, (key, value) ∈ updates.entries → value.truthy = false) ∧
      slotAt key result = slotAt key memory)

/-- The dictionary fills a slot of the identity. -/
def FillsSlot (updates : JsonObject) : Prop :=
  ∃ key ∈ identitySlotKeys, ∃ value, (key, value) ∈ updates.entries ∧ value.truthy = true

/-- The identities of a dictionary are vouched for, and a source that it names belongs to one of
them or to the one of the slot memory. -/
structure UpdatesFit (rt : Runtime) (Vouched : Json → Prop) (memory updates : JsonObject) :
    Prop where
  slots : ∀ key ∈ identitySlotKeys, ∀ value, (key, value) ∈ updates.entries →
    value.truthy = true → Vouched value
  sources : ∀ key ∈ identitySourceKeys, ∀ value, (key, value) ∈ updates.entries →
    value.truthy = true → isPresentSource rt value = true →
      IdentityVouched Vouched memory ∨ FillsSlot updates

theorem identityVouched_of {memory : JsonObject}
    (hphone : (slotAt "phone" memory).truthy = true → Vouched (slotAt "phone" memory))
    (haccount : ¬(slotAt "phone" memory).truthy = true →
      (slotAt "account_or_phone" memory).truthy = true →
        Vouched (slotAt "account_or_phone" memory)) : IdentityVouched Vouched memory := by
  unfold IdentityVouched identityValue Json.orElse
  split
  · exact hphone
  · rename_i hnone
    exact haccount hnone

theorem overlay_phone (h : Sound rt Vouched start memory)
    (hfit : UpdatesFit rt Vouched memory updates) (hover : Overlays updates memory result) :
    (slotAt "phone" result).truthy = true → Vouched (slotAt "phone" result) := by
  rcases hover "phone" (by decide) with ⟨value, hmem, htruthy, hvalue⟩ | ⟨-, hsame⟩
  · rw [hvalue]
    exact hfit.slots "phone" (by decide) value hmem
  · rw [hsame]
    exact h.phone

/-- The identity stays vouched for, and becomes so where the dictionary fills a slot. -/
theorem overlay_identity (h : Sound rt Vouched start memory)
    (hfit : UpdatesFit rt Vouched memory updates) (hover : Overlays updates memory result)
    (hidentity : IdentityVouched Vouched memory ∨ FillsSlot updates) :
    IdentityVouched Vouched result := by
  refine identityVouched_of (overlay_phone h hfit hover) fun hnone haccount => ?_
  rcases hover "account_or_phone" (by decide) with ⟨value, hmem, htruthy, hvalue⟩ | ⟨hempty, hsame⟩
  · rw [hvalue]
    exact hfit.slots "account_or_phone" (by decide) value hmem htruthy
  · rcases hover "phone" (by decide) with ⟨value, -, htruthy, hvalue⟩ | ⟨hemptyPhone, hsamePhone⟩
    · exact absurd (hvalue ▸ htruthy) hnone
    · rw [hsamePhone] at hnone
      rw [hsame] at haccount ⊢
      rcases hidentity with hvouched | ⟨slot, hslot, value, hmem, htruthy⟩
      · unfold IdentityVouched identityValue Json.orElse at hvouched
        rw [if_neg hnone] at hvouched
        exact hvouched haccount
      · rcases List.mem_cons.mp hslot with rfl | hphone
        · rw [hempty value hmem] at htruthy
          cases htruthy
        · obtain rfl := List.mem_singleton.mp hphone
          rw [hemptyPhone value hmem] at htruthy
          cases htruthy

/-- Fitting updates keep the identity sound. -/
theorem Sound.overlay (h : Sound rt Vouched start memory)
    (hfit : UpdatesFit rt Vouched memory updates) (hover : Overlays updates memory result) :
    Sound rt Vouched start result where
  phone := overlay_phone h hfit hover
  account := by
    rcases hover "account_or_phone" (by decide) with ⟨value, hmem, htruthy, hvalue⟩ | ⟨-, hsame⟩
    · rw [hvalue]
      exact .inr (hfit.slots "account_or_phone" (by decide) value hmem htruthy)
    · rw [hsame]
      exact h.account
  stays := by
    intro key hkey hstart
    have hidentity : key ∈ identityMemoryKeys := by
      rcases List.mem_cons.mp hkey with rfl | hsource
      · decide
      · exact mem_of_source hsource
    rcases hover key hidentity with ⟨value, -, htruthy, hvalue⟩ | ⟨-, hsame⟩
    · rw [hvalue]
      exact htruthy
    · rw [hsame]
      exact h.stays key hkey hstart
  source := by
    intro key hkey hsource hpresent
    rcases hover key (mem_of_source hkey) with ⟨value, hmem, htruthy, hvalue⟩ | ⟨-, hsame⟩
    · rw [hvalue] at hpresent
      exact .inr (overlay_identity h hfit hover (hfit.sources key hkey value hmem htruthy hpresent))
    · rw [hsame] at hsource hpresent ⊢
      exact (h.source key hkey hsource hpresent).imp_right fun hidentity =>
        overlay_identity h hfit hover (.inl hidentity)
  value := fun hstart => overlay_identity h hfit hover (.inl (h.value hstart))

theorem UpdatesFit.empty : UpdatesFit rt Vouched memory ∅ :=
  ⟨fun _ _ _ hmem => absurd hmem List.not_mem_nil,
    fun _ _ _ hmem => absurd hmem List.not_mem_nil⟩

/-- Only the keys of the identity matter. -/
theorem Sound.congr (h : Sound rt Vouched start memory)
    (hsame : ∀ key ∈ identityMemoryKeys, slotAt key result = slotAt key memory) :
    Sound rt Vouched start result :=
  h.overlay .empty fun key hkey => .inr ⟨fun _ hmem => absurd hmem List.not_mem_nil, hsame key hkey⟩

/-- A value that is stored unless it is empty. -/
theorem slotAt_setIf {d : JsonObject} {key other : String} {value : Json} {stored : Bool}
    (hstored : other = key → stored = value.truthy) :
    slotAt other (if stored = true then d.set key value else d) =
      if other = key ∧ value.truthy = true then value else slotAt other d := by
  by_cases hsame : other = key
  · rw [hstored hsame]
    subst hsame
    cases value.truthy with
    | true => simp [slotAt, getKey_set]
    | false => simp
  · have hold : (if other = key ∧ value.truthy = true then value else slotAt other d) =
        slotAt other d := if_neg fun hboth => hsame hboth.1
    rw [hold]
    split
    · rw [slotAt, getKey_set, if_neg hsame, slotAt]
    · rfl

/-- A fold that sets the entries which are not empty overlays them. -/
theorem overlays_foldl {f : JsonObject → String × Json → JsonObject}
    (hf : ∀ d key value, ∀ other ∈ identityMemoryKeys, slotAt other (f d (key, value)) =
      if other = key ∧ value.truthy = true then value else slotAt other d)
    (updates memory : JsonObject) : Overlays updates memory (updates.entries.foldl f memory) := by
  intro other hother
  obtain ⟨entries⟩ := updates
  simp only
  induction entries generalizing memory with
  | nil => exact .inr ⟨fun _ hmem => absurd hmem List.not_mem_nil, rfl⟩
  | cons entry rest ih =>
      obtain ⟨key, value⟩ := entry
      rw [List.foldl_cons]
      rcases ih (f memory (key, value)) with ⟨last, hmem, htruthy, hlast⟩ | ⟨hempty, hsame⟩
      · exact .inl ⟨last, List.mem_cons_of_mem _ hmem, htruthy, hlast⟩
      · rw [hf memory key value other hother] at hsame
        by_cases hset : other = key ∧ value.truthy = true
        · rw [if_pos hset] at hsame
          obtain ⟨rfl, htruthy⟩ := hset
          exact .inl ⟨value, List.mem_cons_self, htruthy, hsame⟩
        · rw [if_neg hset] at hsame
          refine .inr ⟨fun found hmem => ?_, hsame⟩
          rcases List.mem_cons.mp hmem with heq | hrest
          · cases heq
            simpa using hset
          · exact hempty found hrest

theorem overlays_merge
    (htruthy : ∀ key ∈ identityMemoryKeys, ∀ value, (key, value) ∈ updates.entries →
      value.truthy = true) : Overlays updates memory (memory.merge updates) := by
  intro key hkey
  unfold slotAt getKey
  rw [Dict.get?_merge]
  cases hfound : updates.get? key with
  | none =>
      refine .inr ⟨fun value hmem => ?_, rfl⟩
      have hne := List.lookup_eq_none_iff.mp hfound (key, value) hmem
      simp at hne
  | some value =>
      obtain ⟨before, after, hentries, -⟩ := List.lookup_eq_some_iff.mp hfound
      have hmem : (key, value) ∈ updates.entries := by
        rw [hentries]
        simp
      exact .inl ⟨value, hmem, htruthy key hkey value hmem, rfl⟩

/-! ## Dictionaries that are written entry by entry -/

/-- A value is stored under a key, and nothing else changes. -/
structure Writes (updates : JsonObject) (key : String) (value : Json) (result : JsonObject) :
    Prop where
  written : (key, value) ∈ result.entries
  only : ∀ other, (key, other) ∈ result.entries → other = value
  kept : ∀ other, other ≠ key → ∀ found,
    (other, found) ∈ result.entries ↔ (other, found) ∈ updates.entries

theorem writes_set (updates : JsonObject) (key : String) (value : Json) :
    Writes updates key value (updates.set key value) := by
  constructor
  · exact List.mem_cons_self
  · intro other hmem
    simpa [Dict.set, Dict.erase] using hmem
  · intro other hother found
    simp [Dict.set, Dict.erase, hother]

theorem writes_setInOrder (updates : JsonObject) (key : String) (value : Json) :
    Writes updates key value (setInOrder updates key value) := by
  unfold setInOrder
  split
  · rename_i hfound
    obtain ⟨old, hold⟩ := Option.isSome_iff_exists.mp hfound
    obtain ⟨before, after, hentries, -⟩ := List.lookup_eq_some_iff.mp hold
    have hmem : (key, old) ∈ updates.entries := by
      rw [hentries]
      simp
    refine ⟨List.mem_map.mpr ⟨(key, old), hmem, if_pos rfl⟩, fun other hother => ?_,
      fun other hother found => ⟨fun hfound => ?_, fun hfound => ?_⟩⟩
    · obtain ⟨entry, -, hentry⟩ := List.mem_map.mp hother
      split at hentry
      · cases hentry
        rfl
      · rename_i hne
        rw [hentry] at hne
        exact absurd rfl hne
    · obtain ⟨entry, hold, hentry⟩ := List.mem_map.mp hfound
      split at hentry
      · cases hentry
        exact absurd rfl hother
      · rw [← hentry]
        exact hold
    · exact List.mem_map.mpr ⟨(other, found), hfound, if_neg hother⟩
  · rename_i hnone
    have hfree : ∀ other, (key, other) ∉ updates.entries := by
      intro other hmem
      have hlookup : updates.get? key = none := by
        simpa [Dict.contains] using hnone
      have hne := List.lookup_eq_none_iff.mp hlookup (key, other) hmem
      simp at hne
    refine ⟨List.mem_append_right _ (List.mem_singleton.mpr rfl), fun other hmem => ?_,
      fun other hother found => ⟨fun hfound => ?_, List.mem_append_left _⟩⟩
    · rcases List.mem_append.mp hmem with hold | hnew
      · exact absurd hold (hfree other)
      · cases List.mem_singleton.mp hnew
        rfl
    · rcases List.mem_append.mp hfound with hold | hnew
      · exact hold
      · cases List.mem_singleton.mp hnew
        exact absurd rfl hother

variable {key : String} {value : Json}

theorem FillsSlot.of_writes (h : Writes updates key value result) (hslot : key ∈ identitySlotKeys)
    (hvalue : value.truthy = true) : FillsSlot result :=
  ⟨key, hslot, value, h.written, hvalue⟩

theorem FillsSlot.writes (hfills : FillsSlot updates) (h : Writes updates key value result)
    (hvalue : key ∈ identitySlotKeys → value.truthy = true) : FillsSlot result := by
  obtain ⟨slot, hslot, old, hmem, htruthy⟩ := hfills
  by_cases hsame : slot = key
  · subst hsame
    exact .of_writes h hslot (hvalue hslot)
  · exact ⟨slot, hslot, old, (h.kept slot hsame old).mpr hmem, htruthy⟩

/-- A written value fits when it is vouched for, as an identity, or belongs to one that is. -/
theorem UpdatesFit.writes (hfit : UpdatesFit rt Vouched memory updates)
    (h : Writes updates key value result)
    (hslot : key ∈ identitySlotKeys → value.truthy = true ∧ Vouched value)
    (hsource : key ∈ identitySourceKeys → isPresentSource rt value = true →
      IdentityVouched Vouched memory ∨ FillsSlot updates) :
    UpdatesFit rt Vouched memory result := by
  have hfills (hfills : FillsSlot updates) : FillsSlot result :=
    hfills.writes h fun hkey => (hslot hkey).1
  constructor
  · intro slot hkey found hmem htruthy
    by_cases hsame : slot = key
    · subst hsame
      rw [h.only found hmem]
      exact (hslot hkey).2
    · exact hfit.slots slot hkey found ((h.kept slot hsame found).mp hmem) htruthy
  · intro slot hkey found hmem htruthy hpresent
    by_cases hsame : slot = key
    · subst hsame
      rw [h.only found hmem] at hpresent
      exact (hsource hkey hpresent).imp_right hfills
    · exact (hfit.sources slot hkey found ((h.kept slot hsame found).mp hmem) htruthy
        hpresent).imp_right hfills

/-- Other keys do not matter. -/
theorem UpdatesFit.writes_other (hfit : UpdatesFit rt Vouched memory updates)
    (h : Writes updates key value result) (hkey : key ∉ identityMemoryKeys) :
    UpdatesFit rt Vouched memory result :=
  hfit.writes h (fun hslot => absurd (mem_of_slot hslot) hkey)
    fun hsource => absurd (mem_of_source hsource) hkey

end

end AiCustomerService
