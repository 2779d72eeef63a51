import RobotDriver.Bms.JoinConditions
import RobotDriver.Bms.Protocol

/-!
# What a healthy pack has answered

A reception keeps, beside the decoder and the state, the frames taken so far, the newest first.
Every field of the state that health looks at is the one of the newest frame of its kind; the cells
of a row are those of its newest frame or, after a change of the cell count, of none. A healthy
pack has therefore answered every kind within the status timeout with values inside the limits.
-/

namespace RobotDriver.Bms

variable {K : Type*}

structure Frame (K : Type*) where
  canId : UInt32
  data : Option (List UInt8)
  time : Double K
  deriving DecidableEq

namespace Frame

def byte (frame : Frame K) (index : ℕ) : UInt8 := byteAt (frame.data.getD []) index

end Frame

/-- The answers health depends on; the cells come in rows of three. -/
inductive Kind
  | total
  | extremes
  | temperature
  | mos
  | packInfo
  | fault
  | cells (row : Fin 16)
  deriving DecidableEq

namespace Kind

def dataId : Kind → UInt8
  | total => kTotalStatusDataId
  | extremes => kCellExtremesDataId
  | temperature => kCellTemperatureDataId
  | mos => kMosStatusDataId
  | packInfo => kPackInfoDataId
  | fault => kFaultDataId
  | cells _ => kCellVoltagesDataId

def row? : Kind → Option (Fin 16)
  | cells row => some row
  | _ => none

def Answers (kind : Kind) (pack : GoldenPhoenixPack) (frame : Frame K) : Prop :=
  frame.canId = pack.responseId kind.dataId ∧
    ∀ row, kind.row? = some row → (frame.byte 0).toNat = row.val

instance (kind : Kind) (pack : GoldenPhoenixPack) (frame : Frame K) :
    Decidable (kind.Answers pack frame) :=
  inferInstanceAs (Decidable (_ ∧ _))

def stamp (kind : Kind) (state : PackState K) : Option (Double K) :=
  match kind with
  | total => state.sample.lastFrameS
  | extremes => state.cellExtremesS
  | temperature => state.temperatureFrameS
  | mos => state.mosFrameS
  | packInfo => state.packInfoS
  | fault => state.faultFrameS
  | cells row => state.cellFrameS row

variable [Field K]

/-- The fields of the state that a frame of the kind fills are the ones of this frame. -/
def Shown (kind : Kind) (order : Option ByteOrder) (state : PackState K) (data : List UInt8)
    (time : Double K) : Prop :=
  match kind with
  | total => ∃ resolved, order = some resolved ∧ decodeU16 data 6 resolved ≤ kMaximumSocRaw ∧
      state.sample = totalSample data resolved time
  | extremes => ∃ resolved, order = some resolved ∧
      state.maxCellVoltageV = some (.finite (millivolts data 0 resolved)) ∧
      state.minCellVoltageV = some (.finite (millivolts data 3 resolved))
  | temperature => state.maxCellTemperatureC = some (.finite (celsius data 0)) ∧
      state.minCellTemperatureC = some (.finite (celsius data 2))
  | mos => state.operatingStateRaw = some (byteAt data 0) ∧
      state.dischargeMosRaw = some (byteAt data 2)
  | packInfo => byteAt data 0 ≠ 0 ∧ byteAt data 0 ≤ 48 ∧
      state.cellCount = some (byteAt data 0) ∧ state.chargerConnectedRaw = some (byteAt data 2)
  | fault => ∀ index, state.faultBytes index = byteAt data index.val
  | cells row => ∃ resolved, order = some resolved ∧ ∀ cell : Fin 48, cell.val / 3 = row.val →
      state.cellVoltageV cell =
        some (.finite (millivolts data (1 + cell.val % 3 * 2) resolved))

end Kind

open GoldenPhoenixPack

section Step

variable [Field K] {pack pack' : GoldenPhoenixPack} {state state' : PackState K}
  {data : List UInt8} {now : Double K} {dataId : UInt8}

theorem Kind.Shown.mono {kind : Kind} {order order' : Option ByteOrder} {time : Double K}
    (horder : ∀ resolved, order = some resolved → order' = some resolved)
    (h : kind.Shown order state data time) : kind.Shown order' state data time := by
  cases kind with
  | total | extremes | cells =>
    obtain ⟨resolved, heq, h⟩ := h
    exact ⟨resolved, horder resolved heq, h⟩
  | _ => exact h

theorem PackState.setPackInfo_kept {kind : Kind} (hother : kind ≠ .packInfo) :
    kind.stamp (state.setPackInfo data now) = none ∨
      kind.stamp (state.setPackInfo data now) = kind.stamp state ∧
        ∀ order shown time, kind.Shown order state shown time →
          kind.Shown order (state.setPackInfo data now) shown time := by
  by_cases hcount : state.cellCount ≠ some (byteAt data 0)
  · unfold PackState.setPackInfo
    rw [if_pos hcount]
    cases kind with
    | packInfo => exact absurd rfl hother
    | cells row => exact .inl rfl
    | _ => exact .inr ⟨rfl, fun _ _ _ h => h⟩
  · unfold PackState.setPackInfo
    rw [if_neg hcount]
    cases kind with
    | packInfo => exact absurd rfl hother
    | _ => exact .inr ⟨rfl, fun _ _ _ h => h⟩

theorem PackState.setCells_kept {kind : Kind} {order : ByteOrder}
    (hother : ∀ row, kind = .cells row → (byteAt data 0).toNat ≠ row.val) :
    kind.stamp (state.setCells data order now) = kind.stamp state ∧
      ∀ order' shown time, kind.Shown order' state shown time →
        kind.Shown order' (state.setCells data order now) shown time := by
  cases kind with
  | cells row =>
    have hne := hother row rfl
    refine ⟨if_neg hne.symm, fun order' shown time h => ?_⟩
    obtain ⟨resolved, horder, hcells⟩ := h
    refine ⟨resolved, horder, fun cell hcell => ?_⟩
    rw [← hcells cell hcell]
    exact if_neg (hcell.trans_ne hne.symm)
  | _ => exact ⟨rfl, fun _ _ _ h => h⟩

namespace GoldenPhoenixPack

theorem Taken.responseId (h : Taken pack state data now dataId pack' state') (id : UInt8) :
    pack'.responseId id = pack.responseId id := by
  cases h <;> rfl

theorem Taken.resolvedOrder (h : Taken pack state data now dataId pack' state')
    {order : ByteOrder} (horder : pack.totalDecoder.resolvedOrder = some order) :
    pack'.totalDecoder.resolvedOrder = some order := by
  cases h with
  | total resolved hresolved =>
    rw [horder, Option.some_or] at hresolved
    rw [resolve_resolvedOrder, hresolved]
  | _ => exact horder

theorem Taken.shown (h : Taken pack state data now dataId pack' state') {kind : Kind}
    (hid : kind.dataId = dataId)
    (hrow : ∀ row, kind.row? = some row → (byteAt data 0).toNat = row.val) :
    kind.stamp state' = some now ∧
      kind.Shown pack'.totalDecoder.resolvedOrder state' data now := by
  cases h with
  | total order _ hsoc =>
    cases kind with
    | total => exact ⟨rfl, order, rfl, hsoc, rfl⟩
    | _ => exact absurd hid (by dsimp only [Kind.dataId]; decide)
  | fault =>
    cases kind with
    | fault => exact ⟨rfl, fun _ => rfl⟩
    | _ => exact absurd hid (by dsimp only [Kind.dataId]; decide)
  | mos =>
    cases kind with
    | mos => exact ⟨rfl, rfl, rfl⟩
    | _ => exact absurd hid (by dsimp only [Kind.dataId]; decide)
  | temperature =>
    cases kind with
    | temperature => exact ⟨rfl, rfl, rfl⟩
    | _ => exact absurd hid (by dsimp only [Kind.dataId]; decide)
  | dischargeAck =>
    cases kind with
    | _ => exact absurd hid (by dsimp only [Kind.dataId]; decide)
  | packInfo hzero hcount =>
    cases kind with
    | packInfo => exact ⟨rfl, hzero, hcount, rfl, rfl⟩
    | _ => exact absurd hid (by dsimp only [Kind.dataId]; decide)
  | extremes order horder =>
    cases kind with
    | extremes => exact ⟨rfl, order, horder, rfl, rfl⟩
    | _ => exact absurd hid (by dsimp only [Kind.dataId]; decide)
  | cells order horder =>
    cases kind with
    | cells row =>
      have hbyte := hrow row rfl
      refine ⟨if_pos hbyte.symm, order, horder, fun cell hcell => if_pos ?_⟩
      rw [hcell, hbyte]
    | _ => exact absurd hid (by dsimp only [Kind.dataId]; decide)

theorem Taken.kept_state (h : Taken pack state data now dataId pack' state') {kind : Kind}
    (hother : kind.dataId ≠ dataId ∨
      ∃ row, kind = .cells row ∧ (byteAt data 0).toNat ≠ row.val) :
    kind.stamp state' = none ∨ kind.stamp state' = kind.stamp state ∧
      ∀ order shown time, kind.Shown order state shown time →
        kind.Shown order state' shown time := by
  have hne : ∀ other : Kind, other.dataId = dataId → other.row? = none → kind ≠ other := by
    rintro other rfl hrow rfl
    rcases hother with hother | ⟨row, rfl, -⟩
    · exact hother rfl
    · exact absurd hrow (Option.some_ne_none row)
  cases h with
  | total =>
    cases kind with
    | total => exact absurd rfl (hne .total rfl rfl)
    | _ => exact .inr ⟨rfl, fun _ _ _ h => h⟩
  | fault =>
    cases kind with
    | fault => exact absurd rfl (hne .fault rfl rfl)
    | _ => exact .inr ⟨rfl, fun _ _ _ h => h⟩
  | mos =>
    cases kind with
    | mos => exact absurd rfl (hne .mos rfl rfl)
    | _ => exact .inr ⟨rfl, fun _ _ _ h => h⟩
  | temperature =>
    cases kind with
    | temperature => exact absurd rfl (hne .temperature rfl rfl)
    | _ => exact .inr ⟨rfl, fun _ _ _ h => h⟩
  | dischargeAck =>
    cases kind with
    | _ => exact .inr ⟨rfl, fun _ _ _ h => h⟩
  | packInfo => exact PackState.setPackInfo_kept (hne .packInfo rfl rfl)
  | extremes =>
    cases kind with
    | extremes => exact absurd rfl (hne .extremes rfl rfl)
    | _ => exact .inr ⟨rfl, fun _ _ _ h => h⟩
  | cells =>
    refine .inr (PackState.setCells_kept fun row hrow => ?_)
    subst hrow
    rcases hother with hother | ⟨row', heq, hbyte⟩
    · exact absurd rfl hother
    · rw [Kind.cells.inj heq]
      exact hbyte

theorem Taken.kept (h : Taken pack state data now dataId pack' state') {kind : Kind}
    (hother : kind.dataId ≠ dataId ∨
      ∃ row, kind = .cells row ∧ (byteAt data 0).toNat ≠ row.val) :
    kind.stamp state' = none ∨ kind.stamp state' = kind.stamp state ∧
      ∀ shown time, kind.Shown pack.totalDecoder.resolvedOrder state shown time →
        kind.Shown pack'.totalDecoder.resolvedOrder state' shown time := by
  rcases h.kept_state hother with hcleared | ⟨hstamp, hshown⟩
  · exact .inl hcleared
  · refine .inr ⟨hstamp, fun shown time hkind => ?_⟩
    exact (hshown _ shown time hkind).mono fun _ => h.resolvedOrder

end GoldenPhoenixPack

end Step

/-- `log` holds the frames taken so far, the newest first. -/
structure Reception (K : Type*) where
  pack : GoldenPhoenixPack
  state : PackState K := {}
  log : List (Frame K) := []

namespace Reception

section Receive

variable [Field K]

def new (order : ByteOrder) (bmsAddress hostAddress : UInt8) : Reception K where
  pack := .new order bmsAddress hostAddress

def receive (r : Reception K) (frame : Frame K) : Reception K :=
  let (accepted, pack, state) := r.pack.ingest r.state frame.canId frame.data frame.time
  { pack, state, log := if accepted then frame :: r.log else r.log }

def latest (r : Reception K) (kind : Kind) : Option (Frame K) :=
  r.log.find? fun frame => kind.Answers r.pack frame

theorem receive_cases (r : Reception K) (frame : Frame K) :
    r.receive frame = r ∨
      ∃ data dataId pack state, frame.data = some data ∧ data.length = 8 ∧
        frame.time.isFinite = true ∧ frame.canId = r.pack.responseId dataId ∧
        Taken r.pack r.state data frame.time dataId pack state ∧
        r.receive frame = { pack, state, log := frame :: r.log } := by
  unfold receive
  rcases ingest_cases r.pack r.state frame.canId frame.data frame.time with h | ⟨data, dataId, pack,
    state, hdata, hlength, hfinite, hid, htaken, h⟩
  · rw [h]
    exact .inl rfl
  · rw [h]
    exact .inr ⟨data, dataId, pack, state, hdata, hlength, hfinite, hid, htaken, rfl⟩

/-- A stamped kind shows its newest frame. -/
def Recorded (r : Reception K) : Prop :=
  ∀ kind time, kind.stamp r.state = some time →
    ∃ frame data, r.latest kind = some frame ∧ frame.data = some data ∧ data.length = 8 ∧
      frame.time = time ∧ kind.Shown r.pack.totalDecoder.resolvedOrder r.state data time

theorem recorded_new (order : ByteOrder) (bmsAddress hostAddress : UInt8) :
    (new order bmsAddress hostAddress : Reception K).Recorded := by
  intro kind time h
  cases kind <;> cases h

omit [Field K] in
theorem answers_congr {pack pack' : GoldenPhoenixPack}
    (h : ∀ id, pack'.responseId id = pack.responseId id) (kind : Kind) (frame : Frame K) :
    kind.Answers pack' frame ↔ kind.Answers pack frame := by
  unfold Kind.Answers
  rw [h]

theorem recorded_receive (r : Reception K) (frame : Frame K) (h : r.Recorded) :
    (r.receive frame).Recorded := by
  rcases r.receive_cases frame with hkept | ⟨data, dataId, pack, state, hdata, hlength, -, hid,
    htaken, hreceive⟩
  · rw [hkept]
    exact h
  rw [hreceive]
  intro kind time hstamp
  have hanswers := answers_congr (K := K) htaken.responseId
  have hlatest : latest { pack, state, log := frame :: r.log } kind =
      if kind.Answers r.pack frame then some frame else r.latest kind := by
    simp only [latest, hanswers, List.find?_cons]
    split_ifs with hkind <;> simp only [hkind, decide_true, decide_false]
  have hbyte : frame.byte 0 = byteAt data 0 := by rw [Frame.byte, hdata, Option.getD_some]
  by_cases hkind : kind.Answers r.pack frame
  · -- The new frame is the newest of its kind.
    have hdataId : kind.dataId = dataId := responseId_inj.1 (hkind.1.symm.trans hid)
    obtain ⟨hnow, hshown⟩ := htaken.shown hdataId fun row hrow => hbyte ▸ hkind.2 row hrow
    cases hnow.symm.trans hstamp
    refine ⟨frame, data, ?_, hdata, hlength, rfl, hshown⟩
    rw [hlatest, if_pos hkind]
  · have hother : kind.dataId ≠ dataId ∨
        ∃ row, kind = .cells row ∧ (byteAt data 0).toNat ≠ row.val := by
      by_contra hsame
      rw [not_or, not_not] at hsame
      obtain ⟨hdataId, hrow⟩ := hsame
      refine hkind ⟨hid.trans (congrArg _ hdataId.symm), fun row heq => ?_⟩
      cases kind with
      | cells =>
        cases heq
        rw [hbyte]
        exact not_not.1 fun hne => hrow ⟨row, rfl, hne⟩
      | _ => cases heq
    rcases htaken.kept hother with hcleared | ⟨hkept, hshown⟩
    · cases hcleared.symm.trans hstamp
    · obtain ⟨old, oldData, hold, holdData, holdLength, htime, hold'⟩ :=
        h kind time (hkept.symm.trans hstamp)
      refine ⟨old, oldData, ?_, holdData, holdLength, htime, hshown _ _ hold'⟩
      rw [hlatest, if_neg hkind, hold]

theorem receive_pack (r : Reception K) (frame : Frame K) (id : UInt8) :
    (r.receive frame).pack.responseId id = r.pack.responseId id := by
  rcases r.receive_cases frame with h | ⟨_, _, _, _, -, -, -, -, htaken, h⟩
  · rw [h]
  · rw [h]
    exact htaken.responseId id

theorem log_receive (r : Reception K) (frame : Frame K) :
    (r.receive frame).log = r.log ∨ (r.receive frame).log = frame :: r.log := by
  rcases r.receive_cases frame with h | ⟨_, _, _, _, -, -, -, -, -, h⟩
  · exact .inl (by rw [h])
  · exact .inr (by rw [h])

open LabelledRun

theorem recorded_run (order : ByteOrder) (bmsAddress hostAddress : UInt8)
    (frames : List (Frame K)) :
    (run receive (new order bmsAddress hostAddress) frames).Recorded :=
  invariant_all recorded_receive (recorded_new order bmsAddress hostAddress) frames

theorem responseId_run (r : Reception K) (frames : List (Frame K)) (id : UInt8) :
    (run receive r frames).pack.responseId id = r.pack.responseId id :=
  invariant_all (fun r' frame h => (receive_pack r' frame id).trans h) rfl frames

theorem log_run (r : Reception K) (frames : List (Frame K)) :
    ∃ taken : List (Frame K),
      (run receive r frames).log = taken.reverse ++ r.log ∧ taken.Sublist frames := by
  induction frames generalizing r with
  | nil => exact ⟨[], rfl, .slnil⟩
  | cons frame frames ih =>
    obtain ⟨taken, hlog, hsub⟩ := ih (r.receive frame)
    rcases log_receive r frame with h | h
    · exact ⟨taken, by rw [run_cons, hlog, h], hsub.cons frame⟩
    · refine ⟨frame :: taken, ?_, hsub.cons_cons frame⟩
      rw [run_cons, hlog, h, List.reverse_cons, List.append_assoc, List.singleton_append]

end Receive

end Reception

section Health

variable [Field K] [LinearOrder K] {settings : DischargeSettings K} {now : Double K}

/-- At most the status timeout old. -/
def DischargeSettings.Recent (settings : DischargeSettings K) (stamp now : Double K) : Prop :=
  ∃ time present timeout, stamp = .finite time ∧ now = .finite present ∧
    settings.statusTimeoutS = .finite timeout ∧ time ≤ present ∧ present - time ≤ timeout

/-- The newest frame of the kind is recent and has the property, and the state shows it. -/
def Reception.Answered (r : Reception K) (settings : DischargeSettings K) (now : Double K)
    (kind : Kind) (holds : List UInt8 → Prop) : Prop :=
  ∃ frame data, r.latest kind = some frame ∧ frame.data = some data ∧ data.length = 8 ∧
    settings.Recent frame.time now ∧
    kind.Shown r.pack.totalDecoder.resolvedOrder r.state data frame.time ∧ holds data

def DischargeSettings.CellVoltageInside (settings : DischargeSettings K) (voltage : K) : Prop :=
  settings.minCellVoltageV.Le (.finite voltage) ∧
    (Double.finite voltage).Le settings.maxCellVoltageV

instance (settings : DischargeSettings K) (voltage : K) :
    Decidable (settings.CellVoltageInside voltage) :=
  inferInstanceAs (Decidable (_ ∧ _))

structure HealthShown (settings : DischargeSettings K) (r : Reception K) (now : Double K)
    (order : ByteOrder) : Prop where
  total : r.Answered settings now .total fun data => decodeU16 data 6 order ≤ kMaximumSocRaw
  fault : r.Answered settings now .fault fun data =>
    ∀ index, byteAt data index.val &&& PackState.faultMask index = 0
  mos : r.Answered settings now .mos fun data => byteAt data 0 = 0 ∨ byteAt data 0 = 2
  temperature : r.Answered settings now .temperature fun data =>
    settings.minCellTemperatureC.Le (.finite (celsius data 2)) ∧
      (Double.finite (celsius data 0)).Le settings.maxCellTemperatureC
  extremes : r.Answered settings now .extremes fun data =>
    settings.minCellVoltageV.Le (.finite (millivolts data 3 order)) ∧
      (Double.finite (millivolts data 0 order)).Le settings.maxCellVoltageV
  packInfo : r.Answered settings now .packInfo fun data =>
    byteAt data 0 ≠ 0 ∧ byteAt data 0 ≤ 48 ∧ byteAt data 2 = 0 ∧
      ∀ cell : Fin 48, cell.val < (byteAt data 0).toNat →
        r.Answered settings now (.cells ⟨cell.val / 3, PackState.row_lt cell⟩) fun row =>
          settings.CellVoltageInside (millivolts row (1 + cell.val % 3 * 2) order)

namespace DischargeSettings

theorem cell_limits_finite (h : settings.accepted = true) :
    (∃ timeout, settings.statusTimeoutS = .finite timeout) ∧
      (∃ low, settings.minCellVoltageV = .finite low) ∧
      (∃ high, settings.maxCellVoltageV = .finite high) ∧
      (∃ low, settings.minCellTemperatureC = .finite low) ∧
        ∃ high, settings.maxCellTemperatureC = .finite high := by
  simp only [accepted, positive, Bool.and_eq_true] at h
  obtain ⟨⟨⟨⟨⟨⟨⟨hrest, hlow⟩, hhigh⟩, -⟩, hcold⟩, hhot⟩, -⟩, -⟩ := h
  obtain ⟨⟨⟨⟨⟨⟨⟨htimeout, -⟩, -⟩, -⟩, -⟩, -⟩, -⟩, -⟩ := hrest
  exact ⟨Double.exists_of_isFinite htimeout.1, Double.exists_of_isFinite hlow.1,
    Double.exists_of_isFinite hhigh, Double.exists_of_isFinite hcold,
    Double.exists_of_isFinite hhot⟩

theorem recent_of_feedbackFresh (haccepted : settings.accepted = true)
    {stamp : Option (Double K)} (h : settings.feedbackFresh stamp now = true) :
    ∃ time, stamp = some time ∧ settings.Recent time now := by
  obtain ⟨⟨timeout, htimeout⟩, -⟩ := cell_limits_finite haccepted
  unfold feedbackFresh at h
  split at h
  · contradiction
  · next time =>
    simp only [Bool.and_eq_true, decide_eq_true_eq] at h
    obtain ⟨⟨⟨hnow, hstamp⟩, hle⟩, hage⟩ := h
    obtain ⟨present, rfl⟩ := Double.exists_of_isFinite hnow
    obtain ⟨t, rfl⟩ := Double.exists_of_isFinite hstamp
    rw [htimeout, Double.sub_finite, Double.le_finite] at hage
    exact ⟨_, rfl, t, present, timeout, rfl, rfl, htimeout, (Double.le_finite _ _).1 hle, hage⟩

theorem recent_of_freshTime [IsStrictOrderedRing K] {stamp : Option (Double K)}
    (h : freshTime stamp now settings.statusTimeoutS = true) :
    ∃ time, stamp = some time ∧ settings.Recent time now := by
  unfold freshTime at h
  split at h
  · contradiction
  · next time =>
    simp only [Bool.and_eq_true, decide_eq_true_eq] at h
    obtain ⟨⟨⟨⟨⟨hstamp, hnow⟩, htimeout⟩, -⟩, hzero⟩, hage⟩ := h
    obtain ⟨t, rfl⟩ := Double.exists_of_isFinite hstamp
    obtain ⟨present, rfl⟩ := Double.exists_of_isFinite hnow
    obtain ⟨timeout, htimeout⟩ := Double.exists_of_isFinite htimeout
    rw [htimeout, Double.sub_finite, Double.le_finite] at hage
    rw [Double.sub_finite, Double.le_finite, sub_nonneg] at hzero
    exact ⟨_, rfl, t, present, timeout, rfl, rfl, htimeout, hzero, hage⟩

end DischargeSettings

theorem Reception.Recorded.answered {r : Reception K} (h : r.Recorded) {kind : Kind}
    {holds : List UInt8 → Prop}
    (hrecent : ∃ time, kind.stamp r.state = some time ∧ settings.Recent time now)
    (hholds : ∀ data time, kind.Shown r.pack.totalDecoder.resolvedOrder r.state data time →
      holds data) : r.Answered settings now kind holds := by
  obtain ⟨time, hstamp, hrecent⟩ := hrecent
  obtain ⟨frame, data, hlatest, hdata, hlength, rfl, hshown⟩ := h kind time hstamp
  exact ⟨frame, data, hlatest, hdata, hlength, hrecent, hshown, hholds data _ hshown⟩

omit [Field K] [LinearOrder K] in
theorem PackState.fault_clear {state : PackState K} {time : Double K}
    (hstamp : state.faultFrameS = some time) (h : state.hasFault = false) (index : Fin 8) :
    state.faultBytes index &&& faultMask index = 0 := by
  rw [hasFault, hstamp, Option.isSome_some, Bool.true_and, decide_eq_false_iff_not] at h
  exact not_not.1 fun hne => h ⟨index, hne⟩

theorem PackState.cell_fresh {state : PackState K} {timeout : Double K} {count : UInt8}
    (hcount : state.cellCount = some count) (h : state.cellsFresh now timeout = true)
    {cell : Fin 48} (hcell : cell.val < count.toNat) :
    freshTime (state.cellFrameS ⟨cell.val / 3, by omega⟩) now timeout = true := by
  unfold cellsFresh at h
  rw [hcount] at h
  simp only [Bool.and_eq_true, decide_eq_true_eq] at h
  exact (h.2 cell hcell).2

theorem DischargeSettings.cell_inside (haccepted : settings.accepted = true)
    {state : PackState K} {count : UInt8} (hcount : state.cellCount = some count)
    (h : settings.cellsInRange state = true) {cell : Fin 48} (hcell : cell.val < count.toNat)
    {voltage : K} (hvoltage : state.cellVoltageV cell = some (.finite voltage)) :
    settings.CellVoltageInside voltage := by
  obtain ⟨-, ⟨low, hlow⟩, ⟨high, hhigh⟩, -⟩ := cell_limits_finite haccepted
  rw [cellsInRange, hcount, Option.getD_some, decide_eq_true_eq] at h
  have hrange := h cell hcell
  rw [hvoltage, Option.all_some] at hrange
  simp only [cellInRange, Bool.and_eq_true, Bool.not_eq_true', decide_eq_false_iff_not] at hrange
  exact ⟨le_of_not_lt_finite hlow rfl hrange.1, le_of_not_lt_finite rfl hhigh hrange.2⟩

variable [IsStrictOrderedRing K]

theorem healthShown_of_healthy {r : Reception K} (haccepted : settings.accepted = true)
    (hr : r.Recorded) (h : settings.healthy r.state now true = true) :
    ∃ order, r.pack.totalDecoder.resolvedOrder = some order ∧ HealthShown settings r now order := by
  obtain ⟨-, ⟨low, hlow⟩, ⟨high, hhigh⟩, ⟨cold, hcold⟩, ⟨hot, hhot⟩⟩ :=
    DischargeSettings.cell_limits_finite haccepted
  simp only [DischargeSettings.healthy, Bool.and_eq_true, Bool.not_eq_true', decide_eq_true_eq,
    Bool.or_eq_true, Bool.not_true, Bool.false_or] at h
  obtain ⟨⟨⟨⟨⟨⟨⟨⟨⟨⟨⟨⟨⟨⟨htotal, hfault⟩, hmos⟩, hcells⟩, htemperature⟩, hwarm⟩, hextremes⟩, hspread⟩,
    hinside⟩, hclear⟩, -⟩, -⟩, hoperating⟩, hcharger⟩, hinfo⟩ := h
  have htotal := DischargeSettings.recent_of_freshTime htotal
  have hfault := DischargeSettings.recent_of_feedbackFresh haccepted hfault
  have hmos := DischargeSettings.recent_of_feedbackFresh haccepted hmos
  have htemperature := DischargeSettings.recent_of_feedbackFresh haccepted htemperature
  have hextremes := DischargeSettings.recent_of_feedbackFresh haccepted hextremes
  have hinfo := DischargeSettings.recent_of_feedbackFresh haccepted hinfo
  obtain ⟨order, horder⟩ : ∃ order, r.pack.totalDecoder.resolvedOrder = some order := by
    obtain ⟨time, hstamp, -⟩ := htotal
    obtain ⟨-, -, -, -, -, -, order, horder, -⟩ := hr .total time hstamp
    exact ⟨order, horder⟩
  refine ⟨order, horder, ?_, ?_, ?_, ?_, ?_, ?_⟩
  · refine hr.answered htotal fun data time hshown => ?_
    obtain ⟨resolved, hresolved, hsoc, -⟩ := hshown
    cases horder.symm.trans hresolved
    exact hsoc
  · refine hr.answered hfault fun data time hshown index => ?_
    obtain ⟨_, hstamp, -⟩ := hfault
    rw [← hshown index]
    exact PackState.fault_clear hstamp hclear index
  · refine hr.answered hmos fun data time hshown => ?_
    rw [hshown.1] at hoperating
    exact hoperating.imp Option.some.inj Option.some.inj
  · refine hr.answered htemperature fun data time hshown => ?_
    rw [DischargeSettings.temperatureInRange, hshown.1, hshown.2] at hwarm
    simp only [Bool.and_eq_true, Bool.not_eq_true', decide_eq_false_iff_not] at hwarm
    exact ⟨le_of_not_lt_finite hcold rfl hwarm.1, le_of_not_lt_finite rfl hhot hwarm.2⟩
  · refine hr.answered hextremes fun data time hshown => ?_
    obtain ⟨resolved, hresolved, hmax, hmin⟩ := hshown
    cases horder.symm.trans hresolved
    rw [DischargeSettings.extremesInRange, hmax, hmin] at hspread
    simp only [Bool.and_eq_true, Bool.not_eq_true', decide_eq_false_iff_not] at hspread
    exact ⟨le_of_not_lt_finite hlow rfl hspread.1, le_of_not_lt_finite rfl hhigh hspread.2⟩
  · refine hr.answered hinfo fun data time hshown => ?_
    obtain ⟨hzero, hmax, hcount, hconnected⟩ := hshown
    rw [hconnected] at hcharger
    refine ⟨hzero, hmax, Option.some.inj hcharger, fun cell hcell => ?_⟩
    have hfresh := PackState.cell_fresh hcount hcells hcell
    refine hr.answered (DischargeSettings.recent_of_freshTime hfresh) fun row time hrow => ?_
    obtain ⟨resolved, hresolved, hvoltage⟩ := hrow
    cases horder.symm.trans hresolved
    exact DischargeSettings.cell_inside haccepted hcount hinside hcell (hvoltage cell rfl)

open LabelledRun

/-- `order` is the one of the constructor; `resolved` is the one in use at the end. -/
theorem pack_health_sound (order : ByteOrder) (bmsAddress hostAddress : UInt8)
    (settings : DischargeSettings K) (haccepted : settings.accepted = true)
    (frames : List (Frame K)) (now : Double K) :
    let r := run Reception.receive (.new order bmsAddress hostAddress) frames
    ((∀ id, r.pack.responseId id = makeCanId id hostAddress bmsAddress) ∧
        r.log.reverse.Sublist frames) ∧
      (settings.healthy r.state now true = true → ∃ resolved,
        r.pack.totalDecoder.resolvedOrder = some resolved ∧ HealthShown settings r now resolved) ∧
      ∀ frame : Frame K,
        (sourceOf frame.canId ≠ bmsAddress ∨ destinationOf frame.canId ≠ hostAddress →
          r.pack.ingest r.state frame.canId frame.data frame.time = (false, r.pack, r.state)) ∧
        ((r.pack.ingest r.state frame.canId frame.data frame.time).1 = false →
          (r.pack.ingest r.state frame.canId frame.data frame.time).2 = (r.pack, r.state)) := by
  intro r
  have hid (id : UInt8) : r.pack.responseId id = makeCanId id hostAddress bmsAddress :=
    Reception.responseId_run _ frames id
  refine ⟨⟨hid, ?_⟩, healthShown_of_healthy haccepted (Reception.recorded_run _ _ _ frames),
    fun frame => ⟨fun hother => ?_, fun hrefused => ?_⟩⟩
  · obtain ⟨taken, hlog, hsub⟩ := Reception.log_run (.new order bmsAddress hostAddress) frames
    have hreverse : r.log.reverse = taken := by
      rw [hlog]
      simp only [Reception.new, List.append_nil, List.reverse_reverse]
    rw [hreverse]
    exact hsub
  · rcases ingest_cases r.pack r.state frame.canId frame.data frame.time with h | ⟨data, dataId, -,
      -, -, -, -, hcan, -⟩
    · exact h
    · rw [hid] at hcan
      rw [hcan, sourceOf_makeCanId, destinationOf_makeCanId] at hother
      rcases hother with hsource | hdestination
      · exact absurd rfl hsource
      · exact absurd rfl hdestination
  · rcases ingest_cases r.pack r.state frame.canId frame.data frame.time with h | ⟨data, dataId,
      pack, state, -, -, -, -, -, h⟩
    · rw [h]
    · rw [h] at hrefused
      cases hrefused

end Health

section Answers

/-- One cell of 3 to 4 V. -/
def oneCellSettings : DischargeSettings ℚ where
  statusTimeoutS := .finite 2
  commandTimeoutS := .finite 1
  observationS := .finite 1
  stableS := .finite 1
  maxVoltageDeltaV := .finite 1
  tripVoltageDeltaV := .finite 2
  maxAbsCurrentA := .finite 5
  minCellVoltageV := .finite 3
  maxCellVoltageV := .finite 4
  minCellTemperatureC := .finite 0
  maxCellTemperatureC := .finite 50
  mosOnRaw := 1
  mosOffRaw := 0

def answer (dataId : UInt8) (data : List UInt8) : Frame ℚ where
  canId := makeCanId dataId 0x40 1
  data := some data
  time := .finite 0

/-- A whole poll of a pack of one cell at 3.5 V, with the extremes it reports. -/
def poll (extremes : List UInt8) : List (Frame ℚ) :=
  [answer kTotalStatusDataId [0, 35, 0, 0, 0x75, 0x30, 1, 0xF4],
    answer kCellExtremesDataId extremes,
    answer kCellTemperatureDataId [60, 0, 60, 0, 0, 0, 0, 0],
    answer kMosStatusDataId [2, 1, 1, 0, 0, 0, 0, 0],
    answer kPackInfoDataId [1, 0, 0, 0, 0, 0, 0, 0],
    answer kCellVoltagesDataId [0, 0x0D, 0xAC, 0, 0, 0, 0, 0],
    answer kFaultDataId [0, 0, 0, 0, 0, 0, 0, 0]]

open LabelledRun

theorem pack_health_sound_poll :
    ∃ resolved, HealthShown oneCellSettings
      (run Reception.receive (.new .auto 1 0x40) (poll [0x0D, 0xAC, 1, 0x0D, 0xAC, 1, 0, 0]))
      (.finite 1) resolved := by
  obtain ⟨-, hhealthy, -⟩ := pack_health_sound .auto 1 0x40 oneCellSettings
    (by decide +kernel) (poll [0x0D, 0xAC, 1, 0x0D, 0xAC, 1, 0, 0]) (.finite 1)
  obtain ⟨resolved, -, h⟩ := hhealthy (by decide +kernel)
  exact ⟨resolved, h⟩

/-- The largest cell voltage is only compared with the upper limit, the smallest with the lower. -/
theorem healthy_outside_limits :
    ∃ frames : List (Frame ℚ),
      let r := run Reception.receive (.new .auto 1 0x40) frames
      oneCellSettings.accepted = true ∧
        oneCellSettings.healthy r.state (.finite 1) true = true ∧
        r.state.maxCellVoltageV = some (.finite 0) ∧
        r.state.minCellVoltageV = some (.finite (13107 / 200)) ∧
        ¬oneCellSettings.CellVoltageInside 0 ∧ ¬oneCellSettings.CellVoltageInside (13107 / 200) := by
  refine ⟨poll [0, 0, 1, 0xFF, 0xFF, 1, 0, 0], ?_⟩
  decide +kernel

end Answers

end RobotDriver.Bms
