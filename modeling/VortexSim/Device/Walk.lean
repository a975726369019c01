import Mathlib.Tactic.Ring
import VortexSim.Device.Valid
import VortexSim.Lib.Odometer

/-!
# The walk of the grid

The walker is an odometer of two rows: the offsets within a cluster, and the origins of the
clusters, which move in steps of the cluster dimensions.  After `k` calls it stands at the `k`-th
reading of both.
-/

namespace VortexSim

open Checked Odometer
open Function (update update_of_ne update_self)

/-! ## A loop of `advance` is a move of a row of wheels -/

theorem rollAxes_roll (step bound : Axes) (wheel : Fin 3 → Wheel)
    (hstep : ∀ axis, (wheel axis).step = (step axis).toNat)
    (hbound : ∀ axis, (wheel axis).bound = (bound axis).toNat) (hnodup : axes.Nodup)
    (hx : ∀ axis ∈ axes, (wheel axis).Shows (x axis).toNat) :
    roll (axes.map wheel) (axes.map fun axis => (x axis).toNat) =
        (axes.map fun axis => ((rollAxes step bound axes x).1 axis).toNat,
          (rollAxes step bound axes x).2) ∧
      ∀ axis, axis ∉ axes → (rollAxes step bound axes x).1 axis = x axis := by
  induction axes generalizing x with
  | nil => exact ⟨rfl, fun _ _ => rfl⟩
  | cons first rest ih =>
    obtain ⟨hfirst, hrest⟩ := List.nodup_cons.mp hnodup
    have hle := (hx first List.mem_cons_self).add_le
    have hadd : (x first + step first).toNat = (x first).toNat + (wheel first).step := by
      rw [BitVec.toNat_add, ← hstep, Nat.mod_eq_of_lt]
      exact Nat.lt_of_le_of_lt hle (hbound first ▸ (bound first).isLt)
    have hother : ∀ (y z : Word) axis, axis ∈ rest →
        update (update x first y) first z axis = x axis := by
      intro y z axis hin
      have hne : axis ≠ first := fun he => hfirst (he ▸ hin)
      rw [update_of_ne hne, update_of_ne hne]
    have hlt : x first + step first < bound first ↔
        (x first).toNat + (wheel first).step < (wheel first).bound := by
      rw [BitVec.lt_def, hadd, hbound]
    rw [List.map_cons, List.map_cons, roll, rollAxes, update_self]
    by_cases hroom : x first + step first < bound first
    · rw [if_pos hroom, if_pos (hlt.mp hroom)]
      refine ⟨Prod.ext ?_ rfl, fun axis hnot => ?_⟩
      · dsimp only
        rw [List.map_cons, update_self, hadd]
        refine congrArg _ (List.map_congr_left fun axis hin => ?_)
        have hne : axis ≠ first := fun he => hfirst (he ▸ hin)
        rw [update_of_ne hne]
      · exact update_of_ne (List.ne_of_not_mem_cons hnot) _ _
    · rw [if_neg hroom, if_neg fun h => hroom (hlt.mpr h)]
      set y := update (update x first (x first + step first)) first 0#32 with hy
      have hsame : ∀ axis ∈ rest, y axis = x axis := hother _ _
      obtain ⟨hroll, hkept⟩ := ih hrest (x := y) fun axis hin => by
        rw [hsame axis hin]
        exact hx axis (List.mem_cons_of_mem _ hin)
      have hmap : (rest.map fun axis => (x axis).toNat) = rest.map fun axis => (y axis).toNat :=
        List.map_congr_left fun axis hin => by rw [hsame axis hin]
      rw [hmap, hroll]
      refine ⟨Prod.ext ?_ rfl, fun axis hnot => ?_⟩
      · rw [List.map_cons, hkept first hfirst, hy, update_self]
        rfl
      · have hne := List.ne_of_not_mem_cons hnot
        rw [hkept axis (List.not_mem_of_not_mem_cons hnot), hy, update_of_ne hne, update_of_ne hne]

/-! ## The wheels of a launch -/

namespace LaunchState

variable {launch : LaunchState}

/-- No dimension of the grid is zero. -/
def Full (launch : LaunchState) : Prop := ∀ axis, launch.gridDimensions axis ≠ 0#32

theorem toNat_pos (h : x ≠ 0#32) : 0 < x.toNat := by
  refine Nat.pos_of_ne_zero fun hzero => h ?_
  apply BitVec.eq_of_toNat_eq
  rw [hzero]
  rfl

theorem Valid.cluster_pos (hv : launch.Valid) (axis : Fin 3) :
    0 < (launch.clusterDimensions axis).toNat := toNat_pos (hv.cluster axis).1

/-- The clusters along an axis fill the grid. -/
theorem Valid.tiles (hv : launch.Valid) (hfull : launch.Full) (axis : Fin 3) :
    (launch.clusterDimensions axis).toNat *
      ((launch.gridDimensions axis).toNat / (launch.clusterDimensions axis).toNat) =
        (launch.gridDimensions axis).toNat := by
  have hmod := congrArg BitVec.toNat ((hv.grid hfull).1 axis)
  exact Nat.mul_div_cancel' (Nat.dvd_of_mod_eq_zero hmod)

/-- The offsets along an axis. -/
def intraWheel (hv : launch.Valid) (axis : Fin 3) : Wheel where
  step := 1
  turns := (launch.clusterDimensions axis).toNat
  step_pos := Nat.one_pos
  turns_pos := hv.cluster_pos axis

/-- The origins along an axis. -/
def originWheel (hv : launch.Valid) (hfull : launch.Full) (axis : Fin 3) : Wheel where
  step := (launch.clusterDimensions axis).toNat
  turns := (launch.gridDimensions axis).toNat / (launch.clusterDimensions axis).toNat
  step_pos := hv.cluster_pos axis
  turns_pos := by
    refine Nat.pos_of_ne_zero fun hzero => ?_
    have htiles := hv.tiles hfull axis
    rw [hzero, Nat.mul_zero] at htiles
    exact (toNat_pos (hfull axis)).ne htiles

def axes : List (Fin 3) := [0, 1, 2]

/-- Three values as a row. -/
def row (x : Axes) : List Nat := axes.map fun axis => (x axis).toNat

def intraWheels (hv : launch.Valid) : List Wheel := axes.map (intraWheel hv)

def originWheels (hv : launch.Valid) (hfull : launch.Full) : List Wheel :=
  axes.map (originWheel hv hfull)

theorem row_inj (h : row x = row y) : x = y := by
  simp only [row, axes, List.map_cons, List.map_nil, List.cons.injEq, and_true] at h
  obtain ⟨h0, h1, h2⟩ := h
  have htoNat : ∀ axis, (x axis).toNat = (y axis).toNat := forall_axes h0 h1 h2
  funext axis
  exact BitVec.eq_of_toNat_eq (htoNat axis)

theorem Valid.volume_intra (hv : launch.Valid) :
    volume (intraWheels hv) = launch.clusterSize.toNat := by
  rw [hv.size, Axes.product, Nat.mul_assoc]
  simp only [volume, intraWheels, axes, intraWheel, List.map_cons, List.map_nil, List.prod_cons,
    List.prod_nil, Nat.mul_one]

theorem Valid.volume_origin (hv : launch.Valid) (hfull : launch.Full) :
    launch.clusterSize.toNat * volume (originWheels hv hfull) = launch.totalCTAs.toNat := by
  rw [hv.size, (hv.grid hfull).2]
  simp only [volume, originWheels, axes, originWheel, List.map_cons, List.map_nil, List.prod_cons,
    List.prod_nil, Nat.mul_one, Axes.product]
  conv_rhs => rw [← hv.tiles hfull 0, ← hv.tiles hfull 1, ← hv.tiles hfull 2]
  ring

end LaunchState

/-! ## Where the walker stands -/

namespace GridWalker

open LaunchState

variable {launch : LaunchState} {hv : launch.Valid} {hfull : launch.Full} {w : GridWalker}
  {k : Nat}

/-- The walker after `k` records. -/
structure Stands (hv : launch.Valid) (hfull : launch.Full) (w : GridWalker) (k : Nat) : Prop where
  launched : w.launch = launch
  emitted : w.emitted.toNat = k
  intra : row w.intra = reading (intraWheels hv) k
  origin : row w.origin = reading (originWheels hv hfull) (k / launch.clusterSize.toNat)

/-- None of the sums and products of a call leaves the 32-bit range. -/
structure NoWrap (w : GridWalker) : Prop where
  emitted : w.emitted.toNat + 1 < 2 ^ 32
  block : ∀ axis, (w.origin axis).toNat + (w.intra axis).toNat < 2 ^ 32
  rank : (w.intra 0).toNat + (w.launch.clusterDimensions 0).toNat *
    ((w.intra 1).toNat + (w.launch.clusterDimensions 1).toNat * (w.intra 2).toNat) < 2 ^ 32
  intra : ∀ axis, (w.intra axis).toNat + 1 < 2 ^ 32
  origin : ∀ axis, (w.origin axis).toNat + (w.launch.clusterDimensions axis).toNat < 2 ^ 32

theorem mem_axes : ∀ axis, axis ∈ axes := by decide

theorem row_shows (h : List.Forall₂ Wheel.Shows (axes.map wheel) (row x)) (axis : Fin 3) :
    (wheel axis).Shows (x axis).toNat := by
  unfold row at h
  rw [List.forall₂_map_left_iff, List.forall₂_map_right_iff, List.forall₂_same] at h
  exact h axis (mem_axes axis)

theorem originWheel_bound (hv : launch.Valid) (hfull : launch.Full) (axis : Fin 3) :
    (originWheel hv hfull axis).bound = (launch.gridDimensions axis).toNat := hv.tiles hfull axis

theorem intraWheel_bound (hv : launch.Valid) (axis : Fin 3) :
    (intraWheel hv axis).bound = (launch.clusterDimensions axis).toNat := Nat.one_mul _

namespace Stands

section

variable (h : Stands hv hfull w k)
include h

theorem intra_shows (axis : Fin 3) : (intraWheel hv axis).Shows (w.intra axis).toNat :=
  row_shows (h.intra ▸ reading_shows _ _) axis

theorem origin_shows (axis : Fin 3) : (originWheel hv hfull axis).Shows (w.origin axis).toNat :=
  row_shows (h.origin ▸ reading_shows _ _) axis

/-- One move of the whole walker. -/
theorem advance (hroom : k + 1 < 2 ^ 32) :
    Stands hv hfull { w with emitted := w.emitted + 1#32 }.advance (k + 1) := by
  have hnodup : axes.Nodup := by decide
  have hintra := (rollAxes_roll (fun _ => 1#32) launch.clusterDimensions (intraWheel hv)
    (fun _ => rfl) (intraWheel_bound hv) hnodup fun axis _ => h.intra_shows axis).1
  have horigin := (rollAxes_roll launch.clusterDimensions launch.gridDimensions
    (originWheel hv hfull) (fun _ => rfl) (originWheel_bound hv hfull) hnodup
    fun axis _ => h.origin_shows axis).1
  change roll (intraWheels hv) (row w.intra) = (row _, _) at hintra
  change roll (originWheels hv hfull) (row w.origin) = (row _, _) at horigin
  rw [h.intra, roll_reading, Prod.mk.injEq, hv.volume_intra] at hintra
  rw [h.origin, roll_reading, Prod.mk.injEq] at horigin
  have hemitted : (w.emitted + 1#32).toNat = k + 1 := by
    rw [BitVec.toNat_add, h.emitted]
    exact Nat.mod_eq_of_lt hroom
  unfold GridWalker.advance
  dsimp only
  rw [h.launched]
  change Stands hv hfull (if (rollAxes _ _ axes w.intra).2 = true then _ else _) (k + 1)
  rw [← hintra.2]
  split
  · rename_i hcarry
    refine ⟨rfl, hemitted, hintra.1.symm, ?_⟩
    rw [Nat.succ_div, if_pos (Nat.dvd_of_mod_eq_zero (of_decide_eq_true hcarry))]
    exact horigin.1.symm
  · rename_i hcarry
    refine ⟨rfl, hemitted, hintra.1.symm, ?_⟩
    rw [Nat.succ_div, if_neg fun hdvd => hcarry (decide_eq_true (Nat.mod_eq_zero_of_dvd hdvd))]
    exact h.origin

/-! ## One record -/

theorem intra_lt (axis : Fin 3) :
    (w.intra axis).toNat < (launch.clusterDimensions axis).toNat :=
  intraWheel_bound hv axis ▸ (h.intra_shows axis).lt

theorem origin_add_le (axis : Fin 3) :
    (w.origin axis).toNat + (launch.clusterDimensions axis).toNat ≤
      (launch.gridDimensions axis).toNat :=
  originWheel_bound hv hfull axis ▸ (h.origin_shows axis).add_le

theorem block_lt (axis : Fin 3) :
    (w.origin axis).toNat + (w.intra axis).toNat < (launch.gridDimensions axis).toNat :=
  Nat.lt_of_lt_of_le (Nat.add_lt_add_left (h.intra_lt axis) _) (h.origin_add_le axis)

/-- The offsets of the wheels, read as a number. -/
theorem rank_eq :
    (w.intra 0).toNat + (launch.clusterDimensions 0).toNat *
      ((w.intra 1).toNat + (launch.clusterDimensions 1).toNat * (w.intra 2).toNat) =
        k % launch.clusterSize.toNat := by
  have hrow := h.intra
  simp only [row, axes, intraWheels, reading, intraWheel, List.map_cons, List.map_nil,
    List.cons.injEq, and_true, Nat.one_mul] at hrow
  obtain ⟨h0, h1, h2⟩ := hrow
  rw [h0, h1, h2, hv.size, Axes.product, Nat.mul_assoc, Nat.mod_mul, Nat.mod_mul]

theorem noWrap (hroom : k + 1 < 2 ^ 32) : w.NoWrap := by
  have hlaunch := h.launched
  refine ⟨?_, fun axis => ?_, ?_, fun axis => ?_, fun axis => ?_⟩
  · rw [h.emitted]
    exact hroom
  · exact Nat.lt_trans (h.block_lt axis) (launch.gridDimensions axis).isLt
  · rw [hlaunch, h.rank_eq]
    exact Nat.lt_of_le_of_lt (Nat.mod_le _ _) (Nat.lt_of_succ_lt hroom)
  · have hlt := h.intra_lt axis
    exact Nat.lt_of_le_of_lt hlt (launch.clusterDimensions axis).isLt
  · rw [hlaunch]
    exact Nat.lt_of_le_of_lt (h.origin_add_le axis) (launch.gridDimensions axis).isLt

/-- What the record says of its place in the grid. -/
theorem current (hroom : k + 1 < 2 ^ 32) :
    w.current.id.toNat = k ∧ w.current.clusterRank.toNat = k % launch.clusterSize.toNat ∧
      ∀ axis, (w.current.blockID axis).toNat = (w.origin axis).toNat + (w.intra axis).toNat := by
  have hwrap := h.noWrap hroom
  refine ⟨h.emitted, ?_, fun axis => ?_⟩
  · have hbound := hwrap.rank
    have hle : (w.intra 1).toNat + (w.launch.clusterDimensions 1).toNat * (w.intra 2).toNat <
        2 ^ 32 := by
      refine Nat.lt_of_le_of_lt ?_ hbound
      refine Nat.le_trans ?_ (Nat.le_add_left _ _)
      refine Nat.le_mul_of_pos_left _ ?_
      rw [h.launched]
      exact hv.cluster_pos 0
    rw [← h.rank_eq, ← h.launched]
    change (w.intra 0 + w.launch.clusterDimensions 0 *
      (w.intra 1 + w.launch.clusterDimensions 1 * w.intra 2)).toNat = _
    simp only [BitVec.toNat_add, BitVec.toNat_mul, Nat.add_mod_mod, Nat.mod_eq_of_lt hle,
      Nat.mod_eq_of_lt hbound]
  · change (w.origin axis + w.intra axis).toNat = _
    rw [BitVec.toNat_add, Nat.mod_eq_of_lt (hwrap.block axis)]

/-! ## Blocks and positions -/

/-- A block lies in the cluster whose origin is below it, at the remaining offset. -/
theorem split (axis : Fin 3)
    (hb : b = (w.origin axis).toNat + (w.intra axis).toNat) :
    (w.intra axis).toNat = b % (launch.clusterDimensions axis).toNat ∧
      (w.origin axis).toNat = (launch.clusterDimensions axis).toNat *
        (b / (launch.clusterDimensions axis).toNat) := by
  obtain ⟨d, -, hd⟩ := h.origin_shows axis
  change _ = (launch.clusterDimensions axis).toNat * d at hd
  have hlt := h.intra_lt axis
  rw [hb, hd, Nat.mul_add_mod, Nat.mod_eq_of_lt hlt, Nat.mul_add_div (hv.cluster_pos axis),
    Nat.div_eq_of_lt hlt]
  exact ⟨rfl, rfl⟩

end

theorem div_lt_volume (hv : launch.Valid) (hfull : launch.Full) (hk : k < launch.totalCTAs.toNat) :
    k / launch.clusterSize.toNat < volume (originWheels hv hfull) := by
  rw [← hv.volume_origin hfull] at hk
  exact Nat.div_lt_of_lt_mul hk

/-- Two clusters with one origin are one cluster. -/
theorem origin_inj (h : Stands hv hfull w k) (h' : Stands hv hfull w' k')
    (hk : k < launch.totalCTAs.toNat) (hk' : k' < launch.totalCTAs.toNat)
    (heq : w.origin = w'.origin) :
    k / launch.clusterSize.toNat = k' / launch.clusterSize.toNat := by
  refine reading_inj (div_lt_volume hv hfull hk) (div_lt_volume hv hfull hk') ?_
  rw [← h.origin, ← h'.origin, heq]

/-- No block is met twice. -/
theorem block_inj (h : Stands hv hfull w k) (h' : Stands hv hfull w' k')
    (hk : k < launch.totalCTAs.toNat) (hk' : k' < launch.totalCTAs.toNat)
    (heq : ∀ axis, (w.origin axis).toNat + (w.intra axis).toNat =
      (w'.origin axis).toNat + (w'.intra axis).toNat) : k = k' := by
  have hintra : w.intra = w'.intra := by
    funext axis
    apply BitVec.eq_of_toNat_eq
    rw [(h.split axis rfl).1, (h'.split axis (heq axis)).1]
  have horigin : w.origin = w'.origin := by
    funext axis
    apply BitVec.eq_of_toNat_eq
    rw [(h.split axis rfl).2, (h'.split axis (heq axis)).2]
  have hdiv := h.origin_inj h' hk hk' horigin
  have hmod : k % launch.clusterSize.toNat = k' % launch.clusterSize.toNat := by
    rw [← h.rank_eq, ← h'.rank_eq, hintra]
  rw [← Nat.div_add_mod k launch.clusterSize.toNat, hdiv, hmod, Nat.div_add_mod]

end Stands

/-- Every block is met. -/
theorem position_exists (hv : launch.Valid) (hfull : launch.Full) {b : Axes}
    (hb : ∀ axis, b axis < launch.gridDimensions axis) :
    ∃ k < launch.totalCTAs.toNat, ∀ w, Stands hv hfull w k → ∀ axis,
      (w.origin axis).toNat + (w.intra axis).toNat = (b axis).toNat := by
  have hintra : List.Forall₂ Wheel.Shows (intraWheels hv)
      (axes.map fun axis => (b axis).toNat % (launch.clusterDimensions axis).toNat) := by
    unfold intraWheels
    rw [List.forall₂_map_left_iff, List.forall₂_map_right_iff, List.forall₂_same]
    exact fun axis _ => ⟨_, Nat.mod_lt _ (hv.cluster_pos axis), (Nat.one_mul _).symm⟩
  have horigin : List.Forall₂ Wheel.Shows (originWheels hv hfull)
      (axes.map fun axis => (launch.clusterDimensions axis).toNat *
        ((b axis).toNat / (launch.clusterDimensions axis).toNat)) := by
    unfold originWheels
    rw [List.forall₂_map_left_iff, List.forall₂_map_right_iff, List.forall₂_same]
    refine fun axis _ => ⟨_, ?_, rfl⟩
    refine Nat.div_lt_of_lt_mul ?_
    change _ < (launch.clusterDimensions axis).toNat * (_ / _)
    rw [hv.tiles hfull axis]
    exact hb axis
  obtain ⟨i, hi, hreadi⟩ := reading_surj hintra
  obtain ⟨q, hq, hreadq⟩ := reading_surj horigin
  rw [hv.volume_intra] at hi
  have hpos := Nat.lt_of_le_of_lt (Nat.zero_le i) hi
  have hmod : (launch.clusterSize.toNat * q + i) % launch.clusterSize.toNat = i := by
    rw [Nat.mul_add_mod, Nat.mod_eq_of_lt hi]
  have hdiv : (launch.clusterSize.toNat * q + i) / launch.clusterSize.toNat = q := by
    rw [Nat.mul_add_div hpos, Nat.div_eq_of_lt hi, Nat.add_zero]
  refine ⟨launch.clusterSize.toNat * q + i, ?_, fun w h axis => ?_⟩
  · rw [← hv.volume_origin hfull]
    calc launch.clusterSize.toNat * q + i
        < launch.clusterSize.toNat * q + launch.clusterSize.toNat := Nat.add_lt_add_left hi _
      _ = launch.clusterSize.toNat * (q + 1) := (Nat.mul_succ _ _).symm
      _ ≤ launch.clusterSize.toNat * volume (originWheels hv hfull) := Nat.mul_le_mul_left _ hq
  · have hrowi : row w.intra = _ := h.intra.trans (by
      rw [← reading_mod, hv.volume_intra, hmod, hreadi])
    have hrowq : row w.origin = _ := h.origin.trans (by rw [hdiv, hreadq])
    have hi' := List.map_inj_left.mp hrowi axis (mem_axes axis)
    have hq' := List.map_inj_left.mp hrowq axis (mem_axes axis)
    rw [hi', hq', Nat.div_add_mod]

/-! ## The whole walk -/

/-- The walker after some calls. -/
def after : Nat → GridWalker → GridWalker
  | 0, w => w
  | n + 1, w =>
    match w.next with
    | some (_, w') => after n w'
    | none => w

/-- The records of some calls. -/
def emit : Nat → GridWalker → List CTA
  | 0, _ => []
  | n + 1, w =>
    match w.next with
    | some (cta, w') => cta :: emit n w'
    | none => []

theorem after_of_none (h : w.next = none) (n : Nat) : w.after n = w := by
  cases n with
  | zero => rfl
  | succ n => rw [after, h]

theorem emit_of_none (h : w.next = none) (n : Nat) : w.emit n = [] := by
  cases n with
  | zero => rfl
  | succ n => rw [emit, h]

theorem emit_getElem? (w : GridWalker) (n k : Nat) :
    (w.emit n)[k]? = if k < n then (w.after k).next.map Prod.fst else none := by
  induction n generalizing w k with
  | zero => rw [emit, List.getElem?_nil, if_neg (Nat.not_lt_zero k)]
  | succ n ih =>
    cases hnext : w.next with
    | none =>
      rw [emit_of_none hnext, after_of_none hnext, hnext, List.getElem?_nil, Option.map_none,
        ite_self]
    | some out =>
      rw [emit, hnext]
      cases k with
      | zero =>
        rw [after, hnext, if_pos (Nat.succ_pos n)]
        rfl
      | succ k =>
        rw [List.getElem?_cons_succ, ih, after, hnext]
        simp only [Nat.succ_lt_succ_iff]

namespace Stands

section

variable (h : Stands hv hfull w k)
include h

theorem next (hk : k < launch.totalCTAs.toNat) :
    ∃ w', w.next = some (w.current, w') ∧ Stands hv hfull w' (k + 1) := by
  refine ⟨_, ?_, h.advance (Nat.lt_of_le_of_lt hk launch.totalCTAs.isLt)⟩
  unfold GridWalker.next
  rw [if_neg]
  rw [BitVec.le_def, h.launched, h.emitted]
  exact Nat.not_le.mpr hk

theorem next_none (hk : launch.totalCTAs.toNat ≤ k) : w.next = none := by
  unfold GridWalker.next
  rw [if_pos]
  rw [BitVec.le_def, h.launched, h.emitted]
  exact hk

theorem after (hn : k + n ≤ launch.totalCTAs.toNat) :
    Stands hv hfull (w.after n) (k + n) := by
  induction n generalizing w k with
  | zero => exact h
  | succ n ih =>
    obtain ⟨w', hnext, hw'⟩ := h.next (by omega)
    rw [GridWalker.after, hnext]
    have := ih hw' (by omega)
    rwa [Nat.add_assoc, Nat.add_comm 1 n] at this

theorem after_none (hn : launch.totalCTAs.toNat ≤ k + n) :
    (w.after n).next = none := by
  induction n generalizing w k with
  | zero => exact h.next_none hn
  | succ n ih =>
    by_cases hk : k < launch.totalCTAs.toNat
    · obtain ⟨w', hnext, hw'⟩ := h.next hk
      rw [GridWalker.after, hnext]
      exact ih hw' (by omega)
    · have hnone := h.next_none (Nat.not_lt.mp hk)
      rw [after_of_none hnone, hnone]

theorem emit_length (n : Nat) :
    (w.emit n).length = min n (launch.totalCTAs.toNat - k) := by
  induction n generalizing w k with
  | zero => rw [emit, List.length_nil, Nat.zero_min]
  | succ n ih =>
    by_cases hk : k < launch.totalCTAs.toNat
    · obtain ⟨w', hnext, hw'⟩ := h.next hk
      rw [emit, hnext]
      rw [List.length_cons, ih hw']
      omega
    · rw [emit_of_none (h.next_none (Nat.not_lt.mp hk)), List.length_nil]
      omega

end

end Stands

theorem newGridWalker_eq_ok (h : newGridWalker input = .ok w) :
    ∃ launch : LaunchState, launch.Valid ∧ w = { launch } := by
  unfold newGridWalker at h
  simp only [ok_iff] at h
  obtain ⟨launch, hlaunch, rfl⟩ := h
  exact ⟨launch, validateLaunch_valid hlaunch, rfl⟩

theorem stands_initial (hv : launch.Valid) (hfull : launch.Full) :
    Stands hv hfull { launch } 0 := by
  refine ⟨rfl, rfl, ?_, ?_⟩
  · rw [reading_zero]
    rfl
  · rw [Nat.zero_div, reading_zero]
    rfl

/-- The walk of a new walker: its records, and where it stands at each of them. -/
structure Walk (w : GridWalker) (ctas : List CTA) : Prop where
  length : ctas.length = w.launch.totalCTAs.toNat
  ends : ∀ n, w.launch.totalCTAs.toNat ≤ n → w.emit n = ctas ∧ (w.after n).next = none
  /-- Every block of the grid has exactly one position. -/
  blocks : ∀ b : Axes, (∀ axis, b axis < w.launch.gridDimensions axis) →
    ∃! k : Nat, ctas[k]?.map CTA.blockID = some b
  inside : ∀ (k : Nat) cta, ctas[k]? = some cta →
    ∀ axis, cta.blockID axis < w.launch.gridDimensions axis
  /-- Whole clusters, and the ranks of each in order. -/
  clusters : w.launch.clusterSize.toNat ∣ w.launch.totalCTAs.toNat
  ranks : ∀ (k : Nat) cta, ctas[k]? = some cta → cta.id.toNat = k ∧
    cta.clusterRank.toNat = k % w.launch.clusterSize.toNat
  /-- The cluster of a block is the tile of the grid it lies in. -/
  tiles : ∀ (k : Nat) cta, ctas[k]? = some cta → ∀ axis, (cta.clusterOrigin axis).toNat =
    (w.launch.clusterDimensions axis).toNat *
      ((cta.blockID axis).toNat / (w.launch.clusterDimensions axis).toNat)
  contiguous : ∀ (j k : Nat) a b, ctas[j]? = some a → ctas[k]? = some b →
    (a.clusterOrigin = b.clusterOrigin ↔
      j / w.launch.clusterSize.toNat = k / w.launch.clusterSize.toNat)
  noWrap : ∀ k < w.launch.totalCTAs.toNat, (w.after k).NoWrap

/-- The record at a position, with the walker that stands there. -/
theorem Stands.emit_at (h : Stands hv hfull w 0) : (w.emit launch.totalCTAs.toNat)[k]? = some cta ↔
      k < launch.totalCTAs.toNat ∧ cta = (w.after k).current := by
  rw [emit_getElem?]
  split
  · rename_i hk
    have hstands := h.after (n := k) (by omega)
    rw [Nat.zero_add] at hstands
    obtain ⟨w', hnext, -⟩ := hstands.next hk
    rw [hnext, Option.map_some, Option.some_inj]
    exact ⟨fun he => ⟨hk, he.symm⟩, fun he => he.2.symm⟩
  · rename_i hk
    exact ⟨fun he => (Option.some_ne_none _ he.symm).elim, fun he => absurd he.1 hk⟩

theorem Stands.walk (h : Stands hv hfull w 0) : w.Walk (w.emit launch.totalCTAs.toNat) := by
  have hstands : ∀ {k}, k < launch.totalCTAs.toNat → Stands hv hfull (w.after k) k := by
    intro k hk
    have := h.after (n := k) (by omega)
    rwa [Nat.zero_add] at this
  have hroom : ∀ {k}, k < launch.totalCTAs.toNat → k + 1 < 2 ^ 32 := fun hk =>
    Nat.lt_of_le_of_lt hk launch.totalCTAs.isLt
  have hlaunch := h.launched
  refine ⟨?_, ?_, ?_, ?_, ?_, ?_, ?_, ?_, ?_⟩
  · rw [h.emit_length, Nat.sub_zero, Nat.min_self, hlaunch]
  · intro n hn
    rw [hlaunch] at hn
    refine ⟨List.ext_getElem? fun k => ?_, h.after_none (by omega)⟩
    rw [emit_getElem?, emit_getElem?]
    by_cases hk : k < launch.totalCTAs.toNat
    · rw [if_pos hk, if_pos (Nat.lt_of_lt_of_le hk hn)]
    · rw [if_neg hk, h.after_none (by omega), Option.map_none, ite_self]
  · intro b hb
    rw [hlaunch] at hb
    obtain ⟨k, hk, hpos⟩ := position_exists hv hfull hb
    refine ⟨k, ?_, ?_⟩
    · dsimp only
      rw [h.emit_at.mpr ⟨hk, rfl⟩, Option.map_some, Option.some_inj]
      funext axis
      apply BitVec.eq_of_toNat_eq
      rw [((hstands hk).current (hroom hk)).2.2 axis, hpos _ (hstands hk) axis]
    · intro j hj
      obtain ⟨cta, hcta, rfl⟩ := Option.map_eq_some_iff.mp hj
      obtain ⟨hjlt, rfl⟩ := h.emit_at.mp hcta
      refine (hstands hjlt).block_inj (hstands hk) hjlt hk fun axis => ?_
      rw [hpos _ (hstands hk) axis, ((hstands hjlt).current (hroom hjlt)).2.2 axis]
  · intro k cta hcta axis
    obtain ⟨hk, rfl⟩ := h.emit_at.mp hcta
    rw [BitVec.lt_def, ((hstands hk).current (hroom hk)).2.2 axis, hlaunch]
    exact (hstands hk).block_lt axis
  · rw [hlaunch]
    exact ⟨_, (hv.volume_origin hfull).symm⟩
  · intro k cta hcta
    obtain ⟨hk, rfl⟩ := h.emit_at.mp hcta
    rw [hlaunch]
    obtain ⟨hid, hrank, -⟩ := (hstands hk).current (hroom hk)
    exact ⟨hid, hrank⟩
  · intro k cta hcta axis
    obtain ⟨hk, rfl⟩ := h.emit_at.mp hcta
    rw [hlaunch]
    exact ((hstands hk).split axis (((hstands hk).current (hroom hk)).2.2 axis)).2
  · intro j k a b ha hb
    obtain ⟨hj, rfl⟩ := h.emit_at.mp ha
    obtain ⟨hk, rfl⟩ := h.emit_at.mp hb
    rw [hlaunch]
    refine ⟨(hstands hj).origin_inj (hstands hk) hj hk, fun heq => ?_⟩
    refine row_inj ((hstands hj).origin.trans ?_)
    rw [heq]
    exact (hstands hk).origin.symm
  · intro k hk
    rw [hlaunch] at hk
    exact (hstands hk).noWrap (hroom hk)

/-- An empty grid has no walk. -/
theorem walk_empty (hv : launch.Valid) (hempty : ∃ axis, launch.gridDimensions axis = 0#32) :
    Walk { launch } [] := by
  have htotal : launch.totalCTAs.toNat = 0 := by
    rw [hv.empty hempty]
    rfl
  have hnext : GridWalker.next { launch } = none := by
    unfold GridWalker.next
    rw [if_pos]
    rw [BitVec.le_def, htotal]
    exact Nat.zero_le _
  refine ⟨htotal.symm, fun n _ => ⟨emit_of_none hnext n, ?_⟩, fun b hb => ?_,
    fun _ _ h => (Option.some_ne_none _ h.symm).elim, ?_,
    fun _ _ h => (Option.some_ne_none _ h.symm).elim,
    fun _ _ h => (Option.some_ne_none _ h.symm).elim,
    fun _ _ _ _ h => (Option.some_ne_none _ h.symm).elim, fun k hk => ?_⟩
  · rw [after_of_none hnext, hnext]
  · obtain ⟨axis, hzero⟩ := hempty
    have hlt := hb axis
    rw [hzero] at hlt
    exact absurd hlt (BitVec.not_lt_zero)
  · rw [htotal]
    exact Nat.dvd_zero _
  · rw [htotal] at hk
    exact absurd hk (Nat.not_lt_zero k)

/-- The walker of an accepted launch. -/
theorem emit_walk {input : LaunchState} (h : newGridWalker input = .ok w) :
    w.Walk (w.emit w.launch.totalCTAs.toNat) := by
  obtain ⟨launch, hv, rfl⟩ := newGridWalker_eq_ok h
  by_cases hfull : launch.Full
  · exact (stands_initial hv hfull).walk
  · have hempty : ∃ axis, launch.gridDimensions axis = 0#32 := by
      unfold LaunchState.Full at hfull
      simpa only [not_forall, ne_eq, not_not] using hfull
    have hwalk := walk_empty hv hempty
    have hnone := (hwalk.ends launch.totalCTAs.toNat (Nat.le_refl _)).1
    rw [hnone]
    exact hwalk

/-- A grid of two clusters of two CTAs, along X. -/
def pairGrid : LaunchState where
  startupPC := 256#32
  gridDimensions := ![4#32, 1#32, 1#32]
  blockDimensions := ![4#32, 1#32, 1#32]
  blockSize := 4#32
  clusterDimensions := ![2#32, 1#32, 1#32]

theorem emit_walk_pair : ∃ w, newGridWalker pairGrid = .ok w ∧
    (w.emit w.launch.totalCTAs.toNat).length = 4 := by
  cases h : newGridWalker pairGrid with
  | error e =>
    have hok : (newGridWalker pairGrid).isOk = true := by decide +kernel
    rw [h] at hok
    cases hok
  | ok w =>
    have htotal : (newGridWalker pairGrid).toOption.map (fun w => w.launch.totalCTAs) =
        some 4#32 := by decide +kernel
    rw [h] at htotal
    have htotal' : w.launch.totalCTAs = 4#32 := Option.some_inj.mp htotal
    refine ⟨w, rfl, ?_⟩
    rw [(emit_walk h).length, htotal']
    rfl

end GridWalker

end VortexSim
