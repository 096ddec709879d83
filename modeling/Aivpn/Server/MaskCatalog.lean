import Aivpn.Lib.Runs
import Mathlib.Algebra.Group.Nat.Defs
import Mathlib.Data.List.AList
import Mathlib.Data.List.Perm.Basic

/-!
# The mask catalog

`MaskCatalog` of `gateway.rs`: the masks in rotation and the compromised ones with the times at which
they were marked. A compromised mask leaves the catalog when its cooldown is over and a new variant
takes its place. Of a mask only the id and the length of its signature vector are modelled.

No compromised mask is in rotation, and a fallback is neither the current mask nor a compromised one,
exactly as long as no mask is registered and no variant generated under a compromised id
(`catalog_safe_iff`).
-/

set_option autoImplicit false

namespace Aivpn

open Aivpn.Lib

/-- `MaskProfile`, as far as the catalog and the neural module read it. -/
structure CatalogMask where
  maskId : String
  signatureLength : Nat
deriving DecidableEq, Repr

/-- `MaskCatalog`. The maps are iterated in any order. -/
structure MaskCatalog where
  masks : AList fun _ : String => CatalogMask
  compromised : AList fun _ : String => Nat
  variantCounter : UInt32

namespace MaskCatalog

/-- `preset_masks::webrtc_zoom_v3`. -/
def webrtcZoomV3 : CatalogMask := ⟨"webrtc_zoom_v3", 64⟩

/-- `preset_masks::quic_https_v2`. -/
def quicHttpsV2 : CatalogMask := ⟨"quic_https_v2", 64⟩

/-- The cooldown in milliseconds. -/
def cooldown : Nat := 300000

/-- `masks.insert`. -/
def insertMask (mask : CatalogMask) (c : MaskCatalog) : MaskCatalog :=
  { c with masks := c.masks.insert mask.maskId mask }

/-- `MaskCatalog::new`. -/
def new : MaskCatalog := insertMask quicHttpsV2 (insertMask webrtcZoomV3 ⟨∅, ∅, 1⟩)

/-- `register_mask`. -/
def registerMask (mask : CatalogMask) (c : MaskCatalog) : MaskCatalog := c.insertMask mask

/-- `mark_compromised`. -/
def markCompromised (now : Nat) (maskId : String) (c : MaskCatalog) : MaskCatalog :=
  { c with masks := c.masks.erase maskId, compromised := c.compromised.insert maskId now }

/-- The id of a generated variant. -/
def variantId (isWebrtc : Bool) (variantNum : UInt32) : String :=
  let n := variantNum.toNat
  if isWebrtc then s!"webrtc_v3_r{n}" else s!"quic_v2_r{n}"

/-- `generate_variant`, with the base that is drawn for each number. -/
def generateVariant (base : UInt32 → Bool) (c : MaskCatalog) : CatalogMask × MaskCatalog :=
  (⟨variantId (base c.variantCounter) c.variantCounter, 64⟩,
    { c with variantCounter := c.variantCounter + 1 })

/-- A new variant in rotation. -/
def addVariant (base : UInt32 → Bool) (c : MaskCatalog) : MaskCatalog :=
  let (mask, c) := c.generateVariant base
  c.insertMask mask

/-- The compromised masks whose cooldown is over. -/
def expired (now : Nat) (c : MaskCatalog) : List String :=
  (c.compromised.entries.filter fun e => cooldown < now - e.2).map Sigma.fst

/-- The loop of `recycle_expired`. -/
def recycle (base : UInt32 → Bool) : List String → MaskCatalog → MaskCatalog
  | [], c => c
  | maskId :: maskIds, c =>
      recycle base maskIds
        (addVariant base { c with compromised := c.compromised.erase maskId })

/-- `recycle_expired`. -/
def recycleExpired (now : Nat) (base : UInt32 → Bool) (c : MaskCatalog) : MaskCatalog :=
  recycle base (c.expired now) c

/-- The pool is filled up when at most one mask is left. -/
def refill (base : UInt32 → Bool) (c : MaskCatalog) : MaskCatalog :=
  if c.masks.keys.length ≤ 1 then c.addVariant base else c

/-- The ids of the masks in the order in which the map iterates. -/
def iterate (order : List String) (c : MaskCatalog) : List String :=
  if order.Perm c.masks.keys then order else c.masks.keys

/-- `select_fallback`. -/
def selectFallback (now : Nat) (base : UInt32 → Bool) (order : List String) (current : String)
    (c : MaskCatalog) : Option CatalogMask × MaskCatalog :=
  let c := refill base (c.recycleExpired now base)
  (((c.iterate order).find? fun maskId => maskId != current).bind fun maskId =>
    c.masks.lookup maskId, c)

/-! ## The masks that enter the rotation -/

/-- The ids of the next `k` variants. -/
def drawn (base : UInt32 → Bool) (n : UInt32) : Nat → List String
  | 0 => []
  | k + 1 => variantId (base n) n :: drawn base (n + 1) k

theorem length_drawn (base : UInt32 → Bool) (n : UInt32) (k : Nat) :
    (drawn base n k).length = k := by
  induction k generalizing n with
  | zero => rfl
  | succ k ih => exact congrArg Nat.succ (ih _)

/-- As long as the counter does not wrap, the numbers of new variants are at least its value. -/
theorem mem_drawn {base : UInt32 → Bool} {n : UInt32} {k : Nat} {maskId : String}
    (h : maskId ∈ drawn base n k) (hwrap : n.toNat + k ≤ 2 ^ 32) :
    ∃ isWebrtc m, n ≤ m ∧ maskId = variantId isWebrtc m := by
  induction k generalizing n with
  | zero => exact absurd h List.not_mem_nil
  | succ k ih =>
      rcases List.mem_cons.1 h with rfl | hrest
      · exact ⟨base n, n, UInt32.le_refl n, rfl⟩
      · cases k with
        | zero => exact absurd hrest List.not_mem_nil
        | succ k =>
            have hsucc : (n + 1).toNat = n.toNat + 1 := by
              rw [UInt32.toNat_add]
              exact Nat.mod_eq_of_lt (by rw [UInt32.toNat_one]; omega)
            obtain ⟨isWebrtc, m, hle, heq⟩ := ih hrest (by omega)
            refine ⟨isWebrtc, m, ?_, heq⟩
            rw [UInt32.le_iff_toNat_le] at hle ⊢
            omega

theorem mem_addVariant (base : UInt32 → Bool) (c : MaskCatalog) (maskId : String) :
    maskId ∈ (c.addVariant base).masks ↔
      maskId = variantId (base c.variantCounter) c.variantCounter ∨ maskId ∈ c.masks :=
  AList.mem_insert _

/-- The loop puts one variant into rotation for each compromised mask that it drops. -/
theorem mem_recycle (base : UInt32 → Bool) (maskIds : List String) (c : MaskCatalog)
    (maskId : String) : maskId ∈ (recycle base maskIds c).masks ↔
      maskId ∈ c.masks ∨ maskId ∈ drawn base c.variantCounter maskIds.length := by
  induction maskIds generalizing c with
  | nil => simp [recycle, drawn]
  | cons _ maskIds ih =>
      rw [recycle, ih, mem_addVariant, List.length_cons, drawn, List.mem_cons]
      exact or_assoc.trans or_left_comm

theorem recycle_compromised (base : UInt32 → Bool) (maskIds : List String) (c : MaskCatalog)
    (maskId : String) : (recycle base maskIds c).compromised.lookup maskId =
      if maskId ∈ maskIds then none else c.compromised.lookup maskId := by
  induction maskIds generalizing c with
  | nil => simp [recycle]
  | cons first maskIds ih =>
      have hcompromised : ∀ c : MaskCatalog, (c.addVariant base).compromised = c.compromised :=
        fun _ => rfl
      rw [recycle, ih, hcompromised]
      by_cases hfirst : maskId = first
      · rw [hfirst, AList.lookup_erase]
        simp
      · rw [AList.lookup_erase_ne hfirst]
        simp [hfirst]

theorem mem_refill (base : UInt32 → Bool) (c : MaskCatalog) (maskId : String) :
    maskId ∈ (c.refill base).masks ↔ maskId ∈ c.masks ∨
      maskId ∈ drawn base c.variantCounter (if c.masks.keys.length ≤ 1 then 1 else 0) := by
  unfold refill
  by_cases hsmall : c.masks.keys.length ≤ 1
  · rw [if_pos hsmall, if_pos hsmall, mem_addVariant, drawn, drawn, List.mem_singleton]
    exact or_comm
  · rw [if_neg hsmall, if_neg hsmall, drawn]
    simp

theorem refill_compromised (base : UInt32 → Bool) (c : MaskCatalog) :
    (c.refill base).compromised = c.compromised := by
  unfold refill
  split_ifs <;> rfl

/-- The counter after `k` more variants, as long as it does not wrap. -/
theorem toNat_add_ofNat {n : UInt32} {k : Nat} (h : n.toNat + k < 2 ^ 32) :
    (n + UInt32.ofNat k).toNat = n.toNat + k := by
  rw [UInt32.toNat_add, UInt32.toNat_ofNat', Nat.add_mod_mod]
  exact Nat.mod_eq_of_lt h

theorem recycle_counter (base : UInt32 → Bool) (maskIds : List String) (c : MaskCatalog) :
    (recycle base maskIds c).variantCounter =
      c.variantCounter + UInt32.ofNat maskIds.length := by
  induction maskIds generalizing c with
  | nil => exact (UInt32.add_zero _).symm
  | cons maskId maskIds ih =>
      have hcounter : ∀ c : MaskCatalog,
          (c.addVariant base).variantCounter = c.variantCounter + 1 := fun _ => rfl
      rw [recycle, ih, hcounter, List.length_cons, Nat.add_comm, UInt32.ofNat_add, UInt32.add_assoc]
      rfl

theorem refill_counter (base : UInt32 → Bool) (c : MaskCatalog) : (c.refill base).variantCounter =
    c.variantCounter + UInt32.ofNat (if c.masks.keys.length ≤ 1 then 1 else 0) := by
  unfold refill
  split_ifs
  · rfl
  · exact (UInt32.add_zero _).symm

/-- Every mask is filed under its id. -/
def Keyed (c : MaskCatalog) : Prop := ∀ maskId mask, c.masks.lookup maskId = some mask →
  mask.maskId = maskId

theorem Keyed.insertMask {c : MaskCatalog} (h : c.Keyed) (mask : CatalogMask) :
    (c.insertMask mask).Keyed := by
  intro maskId mask' hlookup
  unfold MaskCatalog.insertMask at hlookup
  by_cases heq : maskId = mask.maskId
  · subst heq
    rw [AList.lookup_insert] at hlookup
    cases hlookup
    rfl
  · rw [AList.lookup_insert_ne heq] at hlookup
    exact h maskId mask' hlookup

theorem Keyed.addVariant {c : MaskCatalog} (h : c.Keyed) (base : UInt32 → Bool) :
    (c.addVariant base).Keyed :=
  Keyed.insertMask h _

theorem Keyed.recycle {c : MaskCatalog} (h : c.Keyed) (base : UInt32 → Bool)
    (maskIds : List String) : (recycle base maskIds c).Keyed := by
  induction maskIds generalizing c with
  | nil => exact h
  | cons maskId maskIds ih => exact ih (Keyed.addVariant (c := { c with
      compromised := c.compromised.erase maskId }) h base)

theorem Keyed.refill {c : MaskCatalog} (h : c.Keyed) (base : UInt32 → Bool) :
    (c.refill base).Keyed := by
  unfold MaskCatalog.refill
  split_ifs
  · exact h.addVariant base
  · exact h

theorem Keyed.markCompromised {c : MaskCatalog} (h : c.Keyed) (now : Nat) (maskId : String) :
    (c.markCompromised now maskId).Keyed := by
  intro maskId' mask hlookup
  unfold MaskCatalog.markCompromised at hlookup
  by_cases heq : maskId' = maskId
  · rw [heq, AList.lookup_erase] at hlookup
    cases hlookup
  · rw [AList.lookup_erase_ne heq] at hlookup
    exact h maskId' mask hlookup

/-- The fallback is a mask in rotation and not the current one. -/
theorem selectFallback_spec {c : MaskCatalog} (h : c.Keyed) {now : Nat} {base : UInt32 → Bool}
    {order : List String} {current : String} {mask : CatalogMask}
    (hselect : (c.selectFallback now base order current).1 = some mask) :
    mask.maskId ≠ current ∧ mask.maskId ∈ (c.selectFallback now base order current).2.masks := by
  unfold selectFallback at hselect ⊢
  obtain ⟨maskId, hfind, hlookup⟩ := Option.bind_eq_some_iff.1 hselect
  have hkeyed : mask.maskId = maskId := ((h.recycle base _).refill base) maskId mask hlookup
  have hne := List.find?_some hfind
  rw [hkeyed]
  refine ⟨bne_iff_ne.1 hne, ?_⟩
  exact AList.lookup_isSome.1 (Option.isSome_of_eq_some hlookup)

theorem mem_iterate {order : List String} {c : MaskCatalog} {maskId : String} :
    maskId ∈ c.iterate order ↔ maskId ∈ c.masks := by
  unfold iterate
  split_ifs with hperm
  · exact hperm.mem_iff
  · exact Iff.rfl

/-- The fallback is the mask under the first id other than the current one. -/
theorem selectFallback_eq {c : MaskCatalog} (h : c.Keyed) (now : Nat) (base : UInt32 → Bool)
    (order : List String) (current : String) :
    ((c.selectFallback now base order current).1.map CatalogMask.maskId) =
      (((c.recycleExpired now base).refill base).iterate order).find? fun id => id != current := by
  unfold selectFallback
  simp only
  cases hfind : (((c.recycleExpired now base).refill base).iterate order).find?
      fun id => id != current with
  | none => rfl
  | some maskId =>
      have hmem := mem_iterate.1 (List.mem_of_find?_eq_some hfind)
      obtain ⟨mask, hmask⟩ := Option.isSome_iff_exists.1 (AList.lookup_isSome.2 hmem)
      have hkeyed := ((h.recycle base _).refill base) maskId mask hmask
      rw [Option.bind_some, hmask, Option.map_some, hkeyed]

end MaskCatalog

/-! ## Runs -/

/-- The catalog at a time. `marked` has the last time at which each mask was marked as compromised;
it is a history variable. -/
structure CatalogRun where
  catalog : MaskCatalog
  now : Nat
  marked : String → Option Nat

namespace CatalogRun

/-- What is done with the catalog, and the time that passes. -/
inductive Event where
  | registerMask (mask : CatalogMask)
  | markCompromised (maskId : String)
  | recycleExpired (base : UInt32 → Bool)
  | selectFallback (base : UInt32 → Bool) (order : List String) (current : String)
  | wait (ms : Nat)

/-- A new catalog. -/
def start : CatalogRun := ⟨.new, 0, fun _ => none⟩

/-- One step. -/
def step (s : CatalogRun) : Event → CatalogRun
  | .registerMask mask => { s with catalog := s.catalog.registerMask mask }
  | .markCompromised maskId => { s with
      catalog := s.catalog.markCompromised s.now maskId
      marked := Function.update s.marked maskId (some s.now) }
  | .recycleExpired base => { s with catalog := s.catalog.recycleExpired s.now base }
  | .selectFallback base order current =>
      { s with catalog := (s.catalog.selectFallback s.now base order current).2 }
  | .wait ms => { s with now := s.now + ms }

/-- No compromised mask is in rotation. -/
def Separate (s : CatalogRun) : Prop :=
  ∀ maskId, maskId ∈ s.catalog.masks → maskId ∉ s.catalog.compromised

/-- The cooldown of a mask is not over. -/
def InCooldown (s : CatalogRun) (maskId : String) : Prop :=
  ∃ t, s.marked maskId = some t ∧ s.now - t ≤ MaskCatalog.cooldown

/-- The masks in rotation are neither compromised nor in their cooldown, and a fallback is neither the
current mask nor compromised. -/
def Safe (s : CatalogRun) (e : Event) : Prop :=
  (s.step e).Separate ∧
  (∀ maskId, (s.step e).InCooldown maskId → maskId ∉ (s.step e).catalog.masks) ∧
  ∀ base order current mask, e = .selectFallback base order current →
    (s.catalog.selectFallback s.now base order current).1 = some mask →
    mask.maskId ≠ current ∧ mask.maskId ∉ (s.step e).catalog.compromised

/-- The ids of the variants that a step generates. -/
def generated (s : CatalogRun) : Event → List String
  | .recycleExpired base =>
      MaskCatalog.drawn base s.catalog.variantCounter (s.catalog.expired s.now).length
  | .selectFallback base _ _ =>
      let c := s.catalog.recycleExpired s.now base
      MaskCatalog.drawn base s.catalog.variantCounter (s.catalog.expired s.now).length ++
        MaskCatalog.drawn base c.variantCounter (if c.masks.keys.length ≤ 1 then 1 else 0)
  | _ => []

/-- No mask is registered under a compromised id. -/
def RegistersClear (s : CatalogRun) (e : Event) : Prop :=
  ∀ mask, e = .registerMask mask → mask.maskId ∉ s.catalog.compromised

/-- No variant is generated under an id that stays compromised. -/
def GeneratesClear (s : CatalogRun) (e : Event) : Prop :=
  ∀ maskId ∈ s.generated e, maskId ∈ s.catalog.compromised → maskId ∈ s.catalog.expired s.now

/-- What holds between steps. -/
structure Inv (s : CatalogRun) : Prop where
  separate : s.Separate
  keyed : s.catalog.Keyed
  remembered : ∀ maskId t, s.marked maskId = some t → s.now - t ≤ MaskCatalog.cooldown →
    s.catalog.compromised.lookup maskId = some t

/-- What a step that may generate variants does: they come into rotation, and the masks whose cooldown
is over are not compromised any more. -/
theorem step_generates (s : CatalogRun) {e : Event} (he : (∃ base, e = .recycleExpired base) ∨
      ∃ base order current, e = .selectFallback base order current) (maskId : String) :
    (maskId ∈ (s.step e).catalog.masks ↔ maskId ∈ s.catalog.masks ∨ maskId ∈ s.generated e) ∧
      (s.step e).catalog.compromised.lookup maskId =
        if maskId ∈ s.catalog.expired s.now then none else s.catalog.compromised.lookup maskId := by
  rcases he with ⟨base, rfl⟩ | ⟨base, order, current, rfl⟩
  · exact ⟨MaskCatalog.mem_recycle base _ s.catalog maskId,
      MaskCatalog.recycle_compromised base _ s.catalog maskId⟩
  · constructor
    · rw [generated, List.mem_append, ← or_assoc, ← MaskCatalog.mem_recycle]
      exact MaskCatalog.mem_refill base _ maskId
    · rw [← MaskCatalog.recycle_compromised base]
      exact congrArg _ (MaskCatalog.refill_compromised base _)

theorem separate_generates_iff {s : CatalogRun} (hs : s.Separate) {e : Event}
    (he : (∃ base, e = .recycleExpired base) ∨
      ∃ base order current, e = .selectFallback base order current) :
    (s.step e).Separate ↔ s.RegistersClear e ∧ s.GeneratesClear e := by
  have hregisters : s.RegistersClear e := by
    rintro mask rfl
    rcases he with ⟨_, he⟩ | ⟨_, _, _, he⟩ <;> cases he
  rw [and_iff_right hregisters]
  constructor
  · intro h maskId hgenerated hcompromised
    obtain ⟨hmasks, hlookup⟩ := s.step_generates he maskId
    by_contra hstays
    rw [if_neg hstays] at hlookup
    refine h maskId (hmasks.2 (Or.inr hgenerated)) ?_
    rw [← AList.lookup_isSome, hlookup, AList.lookup_isSome]
    exact hcompromised
  · intro h maskId hmem hcompromised
    obtain ⟨hmasks, hlookup⟩ := s.step_generates he maskId
    rw [← AList.lookup_isSome, hlookup] at hcompromised
    split_ifs at hcompromised with hstays
    · cases hcompromised
    -- it was compromised before, so that it would have to be registered or drawn since
    · have hbefore := AList.lookup_isSome.1 hcompromised
      rcases hmasks.1 hmem with hold | hnew
      · exact hs maskId hold hbefore
      · exact hstays (h maskId hnew hbefore)

/-- The masks stay separate in a step if and only if no mask comes into rotation under an id that
stays compromised. -/
theorem Separate.step_iff {s : CatalogRun} (hs : s.Separate) (e : Event) :
    (s.step e).Separate ↔ s.RegistersClear e ∧ s.GeneratesClear e := by
  cases e with
  | registerMask mask =>
      constructor
      · intro h
        refine ⟨?_, fun _ hmem => absurd hmem List.not_mem_nil⟩
        rintro _ ⟨rfl⟩
        exact h mask.maskId ((AList.mem_insert _).2 (Or.inl rfl))
      · rintro ⟨hclear, -⟩ maskId hmem
        rcases (AList.mem_insert _).1 hmem with rfl | hold
        · exact hclear mask rfl
        · exact hs maskId hold
  | markCompromised maskId =>
      refine iff_of_true ?_ ⟨nofun, fun _ hmem => absurd hmem List.not_mem_nil⟩
      intro maskId' hmem hcompromised
      obtain ⟨hne, hold⟩ := AList.mem_erase.1 hmem
      rcases (AList.mem_insert _).1 hcompromised with rfl | hbefore
      · exact hne rfl
      · exact hs maskId' hold hbefore
  | recycleExpired base => exact separate_generates_iff hs (Or.inl ⟨base, rfl⟩)
  | selectFallback base order current =>
      exact separate_generates_iff hs (Or.inr ⟨base, order, current, rfl⟩)
  | wait ms =>
      exact iff_of_true hs ⟨nofun, fun _ hmem => absurd hmem List.not_mem_nil⟩

/-! ## The invariant -/

theorem inv_start : start.Inv where
  separate := fun maskId _ => AList.notMem_empty maskId
  keyed := (MaskCatalog.Keyed.insertMask (MaskCatalog.Keyed.insertMask
    (c := ⟨∅, ∅, 1⟩) (fun _ _ h => by cases h) _) _)
  remembered := fun _ _ h => by cases h

/-- A mask whose cooldown is not over is not dropped. -/
theorem not_mem_expired {c : MaskCatalog} {now t : Nat} {maskId : String}
    (hlookup : c.compromised.lookup maskId = some t) (h : now - t ≤ MaskCatalog.cooldown) :
    maskId ∉ c.expired now := by
  intro hmem
  obtain ⟨⟨maskId', t'⟩, hentry, rfl⟩ := List.mem_map.1 hmem
  obtain ⟨hin, hover⟩ := List.mem_filter.1 hentry
  have hlookup' : c.compromised.lookup maskId' = some t' := AList.mem_lookup_iff.2 hin
  obtain rfl : t' = t := Option.some.inj (hlookup'.symm.trans hlookup)
  exact Nat.not_lt.2 h (of_decide_eq_true hover)

theorem remembered_of_generates {s : CatalogRun} (hs : s.Inv) {e : Event}
    (he : (∃ base, e = .recycleExpired base) ∨
      ∃ base order current, e = .selectFallback base order current) {maskId : String} {t : Nat}
    (hmarked : s.marked maskId = some t) (h : s.now - t ≤ MaskCatalog.cooldown) :
    (s.step e).catalog.compromised.lookup maskId = some t := by
  have hlookup := hs.remembered maskId t hmarked h
  rw [(s.step_generates he maskId).2, if_neg (not_mem_expired hlookup h)]
  exact hlookup

theorem Inv.step {s : CatalogRun} (hs : s.Inv) {e : Event} (h : (s.step e).Separate) :
    (s.step e).Inv := by
  cases e with
  | registerMask mask => exact ⟨h, hs.keyed.insertMask mask, hs.remembered⟩
  | markCompromised maskId =>
      refine ⟨h, hs.keyed.markCompromised s.now maskId, ?_⟩
      intro maskId' t hmarked hcool
      simp only [CatalogRun.step, MaskCatalog.markCompromised] at hmarked ⊢
      by_cases heq : maskId' = maskId
      · subst heq
        rw [Function.update_self] at hmarked
        rw [AList.lookup_insert]
        exact hmarked
      · rw [Function.update_of_ne heq] at hmarked
        rw [AList.lookup_insert_ne heq]
        exact hs.remembered maskId' t hmarked hcool
  | recycleExpired base =>
      exact ⟨h, hs.keyed.recycle base _, fun _ _ hmarked hcool =>
        remembered_of_generates hs (Or.inl ⟨base, rfl⟩) hmarked hcool⟩
  | selectFallback base order current =>
      exact ⟨h, (hs.keyed.recycle base _).refill base, fun _ _ hmarked hcool =>
        remembered_of_generates hs (Or.inr ⟨base, order, current, rfl⟩) hmarked hcool⟩
  | wait ms =>
      refine ⟨h, hs.keyed, fun maskId t hmarked hcool => hs.remembered maskId t hmarked ?_⟩
      exact le_trans (Nat.sub_le_sub_right (Nat.le_add_right s.now ms) t) hcool

/-- A step is safe if and only if the masks stay separate. -/
theorem Inv.safe_iff {s : CatalogRun} (hs : s.Inv) (e : Event) :
    s.Safe e ↔ s.RegistersClear e ∧ s.GeneratesClear e := by
  rw [← hs.separate.step_iff e]
  refine ⟨fun h => h.1, fun h => ⟨h, ?_, ?_⟩⟩
  · rintro maskId ⟨t, hmarked, hcool⟩ hmem
    refine h maskId hmem (AList.lookup_isSome.1 ?_)
    rw [(hs.step h).remembered maskId t hmarked hcool]
    rfl
  · rintro base order current mask rfl hselect
    obtain ⟨hne, hmem⟩ := MaskCatalog.selectFallback_spec hs.keyed hselect
    exact ⟨hne, h mask.maskId hmem⟩

/-! ## Variants -/

/-- The counter does not wrap in this step, and a mask that is marked has not the id of a variant
that is still to be generated. -/
def InDomain (s : CatalogRun) (e : Event) : Prop :=
  s.catalog.variantCounter.toNat + (s.generated e).length < 2 ^ 32 ∧
    ∀ maskId, e = .markCompromised maskId → ∀ isWebrtc n, s.catalog.variantCounter ≤ n →
      maskId ≠ MaskCatalog.variantId isWebrtc n

/-- No variant to come has the id of a compromised mask. -/
def VariantsFresh (s : CatalogRun) : Prop :=
  ∀ isWebrtc n, s.catalog.variantCounter ≤ n →
    MaskCatalog.variantId isWebrtc n ∉ s.catalog.compromised

/-- In the domain the counter grows by the number of variants, and these have numbers from its value
on. -/
theorem InDomain.generated {s : CatalogRun} {e : Event} (h : s.InDomain e) :
    (s.step e).catalog.variantCounter.toNat =
        s.catalog.variantCounter.toNat + (s.generated e).length ∧
      ∀ maskId ∈ s.generated e, ∃ isWebrtc n, s.catalog.variantCounter ≤ n ∧
        maskId = MaskCatalog.variantId isWebrtc n := by
  have hwrap := h.1
  cases e with
  | registerMask mask => exact ⟨rfl, fun _ hmem => absurd hmem List.not_mem_nil⟩
  | markCompromised maskId => exact ⟨rfl, fun _ hmem => absurd hmem List.not_mem_nil⟩
  | wait ms => exact ⟨rfl, fun _ hmem => absurd hmem List.not_mem_nil⟩
  | recycleExpired base =>
      simp only [CatalogRun.generated, MaskCatalog.length_drawn] at hwrap ⊢
      refine ⟨?_, fun maskId hmem => MaskCatalog.mem_drawn hmem (Nat.le_of_lt hwrap)⟩
      simp only [step, MaskCatalog.recycleExpired, MaskCatalog.recycle_counter]
      exact MaskCatalog.toNat_add_ofNat hwrap
  | selectFallback base order current =>
      simp only [CatalogRun.generated, List.length_append, MaskCatalog.length_drawn,
        List.mem_append] at hwrap ⊢
      -- the recycling draws first, and the refill goes on from there
      have hrecycled : (s.catalog.recycleExpired s.now base).variantCounter.toNat =
          s.catalog.variantCounter.toNat + (s.catalog.expired s.now).length := by
        unfold MaskCatalog.recycleExpired
        rw [MaskCatalog.recycle_counter]
        exact MaskCatalog.toNat_add_ofNat (by omega)
      constructor
      · simp only [step, MaskCatalog.selectFallback, MaskCatalog.refill_counter]
        rw [MaskCatalog.toNat_add_ofNat (by omega), hrecycled, Nat.add_assoc]
      · rintro maskId (hmem | hmem)
        · exact MaskCatalog.mem_drawn hmem (by omega)
        · obtain ⟨isWebrtc, n, hle, heq⟩ := MaskCatalog.mem_drawn hmem (by omega)
          refine ⟨isWebrtc, n, ?_, heq⟩
          rw [UInt32.le_iff_toNat_le] at hle ⊢
          omega

theorem VariantsFresh.generatesClear {s : CatalogRun} (hs : s.VariantsFresh) {e : Event}
    (h : s.InDomain e) : s.GeneratesClear e := by
  intro maskId hmem hcompromised
  obtain ⟨isWebrtc, n, hle, rfl⟩ := h.generated.2 maskId hmem
  exact absurd hcompromised (hs isWebrtc n hle)

theorem VariantsFresh.step {s : CatalogRun} (hs : s.VariantsFresh) {e : Event}
    (h : s.InDomain e) : (s.step e).VariantsFresh := by
  intro isWebrtc n hle
  have hle' : s.catalog.variantCounter ≤ n := by
    have hgrows := h.generated.1
    rw [UInt32.le_iff_toNat_le] at hle ⊢
    omega
  have hbefore := hs isWebrtc n hle'
  -- a mask that is drawn is taken off the list of the compromised ones
  have hdropped : ∀ he : (∃ base, e = .recycleExpired base) ∨
      ∃ base order current, e = .selectFallback base order current,
      MaskCatalog.variantId isWebrtc n ∉ (s.step e).catalog.compromised := by
    intro he hmem
    rw [← AList.lookup_isSome, (s.step_generates he _).2] at hmem
    split_ifs at hmem
    · cases hmem
    · exact hbefore (AList.lookup_isSome.1 hmem)
  cases e with
  | registerMask mask => exact hbefore
  | markCompromised maskId =>
      intro hmem
      rcases (AList.mem_insert _).1 hmem with heq | hold
      · exact h.2 maskId rfl isWebrtc n hle' heq.symm
      · exact hbefore hold
  | recycleExpired base => exact hdropped (Or.inl ⟨base, rfl⟩)
  | selectFallback base order current => exact hdropped (Or.inr ⟨base, order, current, rfl⟩)
  | wait ms => exact hbefore

/-- In every run of the catalog: no compromised mask and no mask in its cooldown is in rotation, and
a fallback is neither the current mask nor compromised, behind every step, if and only if no mask is
registered and no variant generated under a compromised id. The second does not happen where the
counter does not wrap and no mask is marked under the id of a variant to come. -/
theorem catalog_safe_iff (es : List Event) :
    (Along step Safe start es ↔
      Along step (fun s e => s.RegistersClear e ∧ s.GeneratesClear e) start es) ∧
    (Along step InDomain start es →
      (Along step Safe start es ↔ Along step RegistersClear start es)) := by
  have hfresh : start.VariantsFresh := fun _ _ _ => AList.notMem_empty _
  -- without a wrap of the counter every variant is new, and the second condition falls away
  constructor
  · have hkeep : ∀ (s : CatalogRun) (e : Event), s.Inv → True →
        s.RegistersClear e ∧ s.GeneratesClear e → (s.step e).Inv :=
      fun s e hs _ hclear => hs.step ((hs.separate.step_iff e).2 hclear)
    exact along_iff_of_invariant hkeep (fun s e hs _ => hs.safe_iff e) inv_start
      (along_of_forall fun _ _ => trivial)
  · intro hdomain
    have hiff : ∀ (s : CatalogRun) (e : Event), s.Inv ∧ s.VariantsFresh → s.InDomain e →
        (s.Safe e ↔ s.RegistersClear e) := by
      intro s e hs hin
      rw [hs.1.safe_iff e, and_iff_left (hs.2.generatesClear hin)]
    have hkeep : ∀ (s : CatalogRun) (e : Event), s.Inv ∧ s.VariantsFresh → s.InDomain e →
        s.RegistersClear e → (s.step e).Inv ∧ (s.step e).VariantsFresh :=
      fun s e hs hin hclear => ⟨hs.1.step ((hiff s e hs hin).2 hclear).1, hs.2.step hin⟩
    exact along_iff_of_invariant hkeep hiff ⟨inv_start, hfresh⟩ hdomain

/-- A mask is marked as compromised and registered again. -/
def sampleReregistered : List Event :=
  [.markCompromised "quic_https_v2", .registerMask MaskCatalog.quicHttpsV2,
    .selectFallback (fun _ => true) [] "webrtc_zoom_v3"]

/-- The compromised mask is in rotation again, within its cooldown, and is selected as a fallback. -/
theorem compromised_mask_selected :
    ¬ Along step Safe start sampleReregistered ∧
      ((runFrom step start (sampleReregistered.take 2)).catalog.selectFallback 0 (fun _ => true) []
        "webrtc_zoom_v3").1 = some MaskCatalog.quicHttpsV2 ∧
      "quic_https_v2" ∈ (runFrom step start sampleReregistered).catalog.compromised := by
  refine ⟨?_, by decide +kernel, by decide +kernel⟩
  rintro ⟨-, ⟨hseparate, -⟩, -⟩
  exact hseparate "quic_https_v2" (by decide +kernel) (by decide +kernel)

end CatalogRun

end Aivpn
