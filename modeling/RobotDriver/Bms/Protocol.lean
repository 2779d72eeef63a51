import RobotDriver.Bms.PackState

/-!
# The frames of a battery pack

A pack answers each poll with an eight byte frame whose identifier names the data, the host it is
for and the pack it comes from. The byte order of the two byte values is configured or read off the
first state of charge that only one order makes valid, and it is kept from then on.
-/

namespace RobotDriver.Bms

def kTotalStatusDataId : UInt8 := 0x90

def kCellExtremesDataId : UInt8 := 0x91

def kCellTemperatureDataId : UInt8 := 0x92

def kMosStatusDataId : UInt8 := 0x93

def kPackInfoDataId : UInt8 := 0x94

def kCellVoltagesDataId : UInt8 := 0x95

def kFaultDataId : UInt8 := 0x98

def kDischargeMosDataId : UInt8 := 0xD9

def kCanIdPrefix : UInt32 := 0x18000000

def kMaximumSocRaw : UInt16 := 1000

inductive ByteOrder
  | auto
  | bigEndian
  | littleEndian
  deriving DecidableEq, Repr

def makeCanId (dataId destination source : UInt8) : UInt32 :=
  kCanIdPrefix ||| (dataId.toUInt32 <<< 16) ||| (destination.toUInt32 <<< 8) ||| source.toUInt32

def dataIdOf (canId : UInt32) : UInt8 := (canId >>> 16).toUInt8

def destinationOf (canId : UInt32) : UInt8 := (canId >>> 8).toUInt8

def sourceOf (canId : UInt32) : UInt8 := canId.toUInt8

theorem dataIdOf_makeCanId (dataId destination source : UInt8) :
    dataIdOf (makeCanId dataId destination source) = dataId := by
  have hprefix : ∀ i : Fin 8, (402653184#32)[16 + i.val] = false := by decide
  apply UInt8.toBitVec_inj.1
  ext i hi
  have hdestination := destination.toBitVec.getLsbD_of_ge (16 + i - 8) (by omega)
  have hsource := source.toBitVec.getLsbD_of_ge (16 + i) (by omega)
  have hlt : 16 + i < 32 := by omega
  have hlt' : i < 32 := by omega
  simp [dataIdOf, makeCanId, kCanIdPrefix, hprefix ⟨i, hi⟩, hdestination, hsource, hlt, hlt',
    BitVec.getLsbD_eq_getElem hi]

theorem destinationOf_makeCanId (dataId destination source : UInt8) :
    destinationOf (makeCanId dataId destination source) = destination := by
  have hprefix : ∀ i : Fin 8, (402653184#32)[8 + i.val] = false := by decide
  apply UInt8.toBitVec_inj.1
  ext i hi
  have hlt : 8 + i < 32 := by omega
  have hlt' : i < 32 := by omega
  have hlt'' : 8 + i < 16 := by omega
  simp [destinationOf, makeCanId, kCanIdPrefix, hprefix ⟨i, hi⟩, hlt, hlt', hlt'',
    BitVec.getLsbD_eq_getElem hi]

theorem sourceOf_makeCanId (dataId destination source : UInt8) :
    sourceOf (makeCanId dataId destination source) = source := by
  apply UInt8.toBitVec_inj.1
  ext i hi
  simp [sourceOf, makeCanId, kCanIdPrefix]

def byteAt (data : List UInt8) (index : ℕ) : UInt8 := data.getD index 0

def decodeU16 (data : List UInt8) (index : ℕ) (order : ByteOrder) : UInt16 :=
  if order = .littleEndian then
    (byteAt data index).toUInt16 ||| ((byteAt data (index + 1)).toUInt16 <<< 8)
  else ((byteAt data index).toUInt16 <<< 8) ||| (byteAt data (index + 1)).toUInt16

def detectOrder (data : List UInt8) : Option ByteOrder :=
  let bigValid := decide (decodeU16 data 6 .bigEndian ≤ kMaximumSocRaw)
  let littleValid := decide (decodeU16 data 6 .littleEndian ≤ kMaximumSocRaw)
  if bigValid ≠ littleValid then some (if bigValid then .bigEndian else .littleEndian) else none

section Values

variable {K : Type*} [Field K]

def raw (value : UInt16) : K := (value.toNat : K)

/-- Tenths of a volt. -/
def totalVoltage (data : List UInt8) (order : ByteOrder) : K := raw (decodeU16 data 0 order) / 10

/-- Tenths of an ampere around an offset of 30000. -/
def totalCurrent (data : List UInt8) (order : ByteOrder) : K :=
  (raw (decodeU16 data 4 order) - 30000) / 10

def millivolts (data : List UInt8) (index : ℕ) (order : ByteOrder) : K :=
  raw (decodeU16 data index order) / 1000

def celsius (data : List UInt8) (index : ℕ) : K := ((byteAt data index).toNat : K) - 40

end Values

structure GoldenPhoenixDecoder where
  configuredOrder : ByteOrder
  responseId : UInt32
  resolvedOrder : Option ByteOrder
  deriving DecidableEq

structure GoldenPhoenixPack where
  totalDecoder : GoldenPhoenixDecoder
  bmsAddress : UInt8
  hostAddress : UInt8
  deriving DecidableEq

def GoldenPhoenixDecoder.new (configuredOrder : ByteOrder) (bmsAddress hostAddress : UInt8) :
    GoldenPhoenixDecoder where
  configuredOrder := configuredOrder
  responseId := makeCanId kTotalStatusDataId hostAddress bmsAddress
  resolvedOrder := if configuredOrder ≠ .auto then some configuredOrder else none

def GoldenPhoenixPack.new (order : ByteOrder) (bmsAddress hostAddress : UInt8) :
    GoldenPhoenixPack where
  totalDecoder := .new order bmsAddress hostAddress
  bmsAddress := bmsAddress
  hostAddress := hostAddress

variable {K : Type*} [Field K]

def totalSample (data : List UInt8) (order : ByteOrder) (now : Double K) : BmsSample K where
  voltageV := some (.finite (totalVoltage data order))
  socFraction := some (.finite (raw (decodeU16 data 6 order) / 1000))
  currentA := some (.finite (totalCurrent data order))
  lastFrameS := some now

/-- A null payload is `none`; the result says whether the frame was taken. -/
def GoldenPhoenixDecoder.ingest (decoder : GoldenPhoenixDecoder) (sample : BmsSample K)
    (canId : UInt32) (data : Option (List UInt8)) (now : Double K) :
    Bool × GoldenPhoenixDecoder × BmsSample K :=
  match data with
  | none => (false, decoder, sample)
  | some data =>
    if canId ≠ decoder.responseId ∨ data.length ≠ 8 ∨ now.isFinite = false then
      (false, decoder, sample)
    else
      match decoder.resolvedOrder.or (detectOrder data) with
      | none => (false, decoder, sample)
      | some order =>
        if decodeU16 data 6 order > kMaximumSocRaw then (false, decoder, sample)
        else (true, { decoder with resolvedOrder := some order }, totalSample data order now)

namespace PackState

def setFault (state : PackState K) (data : List UInt8) (now : Double K) : PackState K :=
  { state with faultBytes := fun index => byteAt data index, faultFrameS := some now }

def setMos (state : PackState K) (data : List UInt8) (now : Double K) : PackState K :=
  { state with
    operatingStateRaw := some (byteAt data 0)
    chargeMosRaw := some (byteAt data 1)
    dischargeMosRaw := some (byteAt data 2)
    mosFrameS := some now }

def setTemperature (state : PackState K) (data : List UInt8) (now : Double K) : PackState K :=
  { state with
    maxCellTemperatureC := some (.finite (celsius data 0))
    minCellTemperatureC := some (.finite (celsius data 2))
    temperatureFrameS := some now }

def setDischargeAck (state : PackState K) (data : List UInt8) (now : Double K) : PackState K :=
  { state with dischargeAckValue := some (byteAt data 0), dischargeAckS := some now }

def beginCellScan (state : PackState K) : PackState K :=
  { state with cellVoltageV := fun _ => none, cellFrameS := fun _ => none }

/-- A new cell count invalidates the cells read so far. -/
def setPackInfo (state : PackState K) (data : List UInt8) (now : Double K) : PackState K :=
  { (if state.cellCount ≠ some (byteAt data 0) then state.beginCellScan else state) with
    cellCount := some (byteAt data 0)
    chargerConnectedRaw := some (byteAt data 2)
    packInfoS := some now }

def setExtremes (state : PackState K) (data : List UInt8) (order : ByteOrder) (now : Double K) :
    PackState K :=
  { state with
    maxCellVoltageV := some (.finite (millivolts data 0 order))
    minCellVoltageV := some (.finite (millivolts data 3 order))
    cellExtremesS := some now }

/-- The three cells of the row the first byte names. -/
def setCells (state : PackState K) (data : List UInt8) (order : ByteOrder) (now : Double K) :
    PackState K :=
  { state with
    cellVoltageV := fun cell =>
      if cell.val / 3 = (byteAt data 0).toNat then
        some (.finite (millivolts data (1 + cell.val % 3 * 2) order))
      else state.cellVoltageV cell
    cellFrameS := fun row =>
      if row.val = (byteAt data 0).toNat then some now else state.cellFrameS row }

end PackState

namespace GoldenPhoenixPack

/-- The identifier of this pack's answers to this host. -/
def responseId (pack : GoldenPhoenixPack) (dataId : UInt8) : UInt32 :=
  makeCanId dataId pack.hostAddress pack.bmsAddress

def ingestPayload (pack : GoldenPhoenixPack) (state : PackState K) (canId : UInt32)
    (data : List UInt8) (now : Double K) : Bool × GoldenPhoenixPack × PackState K :=
  if canId = pack.responseId kTotalStatusDataId then
    let (accepted, decoder, sample) :=
      pack.totalDecoder.ingest state.sample canId (some data) now
    (accepted, { pack with totalDecoder := decoder }, { state with sample })
  else if canId = pack.responseId kFaultDataId then (true, pack, state.setFault data now)
  else if canId = pack.responseId kMosStatusDataId then (true, pack, state.setMos data now)
  else if canId = pack.responseId kCellTemperatureDataId then
    (true, pack, state.setTemperature data now)
  else if canId = pack.responseId kDischargeMosDataId then
    if byteAt data 0 > 1 then (false, pack, state)
    else (true, pack, state.setDischargeAck data now)
  else if canId = pack.responseId kPackInfoDataId then
    if byteAt data 0 = 0 ∨ byteAt data 0 > 48 then (false, pack, state)
    else (true, pack, state.setPackInfo data now)
  else
    match pack.totalDecoder.resolvedOrder with
    | none => (false, pack, state)
    | some order =>
      if canId = pack.responseId kCellExtremesDataId then
        (true, pack, state.setExtremes data order now)
      else if canId = pack.responseId kCellVoltagesDataId then
        if 16 ≤ (byteAt data 0).toNat then (false, pack, state)
        else (true, pack, state.setCells data order now)
      else (false, pack, state)

def ingest (pack : GoldenPhoenixPack) (state : PackState K) (canId : UInt32)
    (data : Option (List UInt8)) (now : Double K) : Bool × GoldenPhoenixPack × PackState K :=
  match data with
  | none => (false, pack, state)
  | some data =>
    if data.length ≠ 8 ∨ now.isFinite = false then (false, pack, state)
    else pack.ingestPayload state canId data now

theorem responseId_inj {pack : GoldenPhoenixPack} {a b : UInt8} :
    pack.responseId a = pack.responseId b ↔ a = b := by
  constructor
  · intro h
    have hid := congrArg dataIdOf h
    rwa [responseId, responseId, dataIdOf_makeCanId, dataIdOf_makeCanId] at hid
  · rintro rfl
    rfl

def resolve (pack : GoldenPhoenixPack) (order : ByteOrder) : GoldenPhoenixPack :=
  { pack with totalDecoder := { pack.totalDecoder with resolvedOrder := some order } }

@[simp] theorem resolve_resolvedOrder (pack : GoldenPhoenixPack) (order : ByteOrder) :
    (pack.resolve order).totalDecoder.resolvedOrder = some order := rfl

/-- What an eight byte frame that is taken does, by the data it carries. -/
inductive Taken (pack : GoldenPhoenixPack) (state : PackState K) (data : List UInt8)
    (now : Double K) : UInt8 → GoldenPhoenixPack → PackState K → Prop
  | total (order : ByteOrder)
      (horder : pack.totalDecoder.resolvedOrder.or (detectOrder data) = some order)
      (hsoc : decodeU16 data 6 order ≤ kMaximumSocRaw) :
      Taken pack state data now kTotalStatusDataId (pack.resolve order)
        { state with sample := totalSample data order now }
  | fault : Taken pack state data now kFaultDataId pack (state.setFault data now)
  | mos : Taken pack state data now kMosStatusDataId pack (state.setMos data now)
  | temperature :
      Taken pack state data now kCellTemperatureDataId pack (state.setTemperature data now)
  | dischargeAck :
      Taken pack state data now kDischargeMosDataId pack (state.setDischargeAck data now)
  | packInfo (hzero : byteAt data 0 ≠ 0) (hcount : byteAt data 0 ≤ 48) :
      Taken pack state data now kPackInfoDataId pack (state.setPackInfo data now)
  | extremes (order : ByteOrder) (horder : pack.totalDecoder.resolvedOrder = some order) :
      Taken pack state data now kCellExtremesDataId pack (state.setExtremes data order now)
  | cells (order : ByteOrder) (horder : pack.totalDecoder.resolvedOrder = some order)
      (hrow : (byteAt data 0).toNat < 16) :
      Taken pack state data now kCellVoltagesDataId pack (state.setCells data order now)

variable {pack : GoldenPhoenixPack} {state : PackState K} {canId : UInt32} {data : List UInt8}
  {now : Double K}

theorem decoder_ingest_cases (decoder : GoldenPhoenixDecoder) (sample : BmsSample K)
    (canId : UInt32) (hlength : data.length = 8) (hfinite : now.isFinite = true) :
    decoder.ingest sample canId (some data) now = (false, decoder, sample) ∨
      ∃ order, decoder.resolvedOrder.or (detectOrder data) = some order ∧
        decodeU16 data 6 order ≤ kMaximumSocRaw ∧
        decoder.ingest sample canId (some data) now =
          (true, { decoder with resolvedOrder := some order }, totalSample data order now) := by
  by_cases hid : canId = decoder.responseId
  · rcases horder : decoder.resolvedOrder.or (detectOrder data) with - | order
    · left
      simp [GoldenPhoenixDecoder.ingest, horder, hid, hlength, hfinite]
    · by_cases hsoc : decodeU16 data 6 order > kMaximumSocRaw
      · left
        simp [GoldenPhoenixDecoder.ingest, horder, hid, hlength, hfinite, hsoc]
      · right
        refine ⟨order, rfl, UInt16.not_lt.1 hsoc, ?_⟩
        simp [GoldenPhoenixDecoder.ingest, horder, hid, hlength, hfinite, hsoc]
  · left
    simp [GoldenPhoenixDecoder.ingest, hid]

theorem ingestPayload_cases (hlength : data.length = 8) (hfinite : now.isFinite = true) :
    pack.ingestPayload state canId data now = (false, pack, state) ∨
      ∃ dataId pack' state', canId = pack.responseId dataId ∧
        Taken pack state data now dataId pack' state' ∧
        pack.ingestPayload state canId data now = (true, pack', state') := by
  unfold ingestPayload
  by_cases htotal : canId = pack.responseId kTotalStatusDataId
  · rw [if_pos htotal]
    rcases decoder_ingest_cases pack.totalDecoder state.sample canId hlength hfinite
      with h | ⟨order, horder, hsoc, h⟩
    · rw [h]
      exact .inl rfl
    · rw [h]
      exact .inr ⟨_, _, _, htotal, .total order horder hsoc, rfl⟩
  rw [if_neg htotal]
  by_cases hfault : canId = pack.responseId kFaultDataId
  · rw [if_pos hfault]
    exact .inr ⟨_, _, _, hfault, .fault, rfl⟩
  rw [if_neg hfault]
  by_cases hmos : canId = pack.responseId kMosStatusDataId
  · rw [if_pos hmos]
    exact .inr ⟨_, _, _, hmos, .mos, rfl⟩
  rw [if_neg hmos]
  by_cases htemperature : canId = pack.responseId kCellTemperatureDataId
  · rw [if_pos htemperature]
    exact .inr ⟨_, _, _, htemperature, .temperature, rfl⟩
  rw [if_neg htemperature]
  by_cases hdischarge : canId = pack.responseId kDischargeMosDataId
  · rw [if_pos hdischarge]
    by_cases hvalue : byteAt data 0 > 1
    · rw [if_pos hvalue]
      exact .inl rfl
    · rw [if_neg hvalue]
      exact .inr ⟨_, _, _, hdischarge, .dischargeAck, rfl⟩
  rw [if_neg hdischarge]
  by_cases hinfo : canId = pack.responseId kPackInfoDataId
  · rw [if_pos hinfo]
    by_cases hcount : byteAt data 0 = 0 ∨ byteAt data 0 > 48
    · rw [if_pos hcount]
      exact .inl rfl
    · rw [if_neg hcount]
      rw [not_or] at hcount
      exact .inr ⟨_, _, _, hinfo, .packInfo hcount.1 (UInt8.not_lt.1 hcount.2), rfl⟩
  rw [if_neg hinfo]
  rcases horder : pack.totalDecoder.resolvedOrder with - | order
  · exact .inl rfl
  dsimp only
  by_cases hextremes : canId = pack.responseId kCellExtremesDataId
  · rw [if_pos hextremes]
    exact .inr ⟨_, _, _, hextremes, .extremes order horder, rfl⟩
  rw [if_neg hextremes]
  by_cases hcells : canId = pack.responseId kCellVoltagesDataId
  · rw [if_pos hcells]
    by_cases hrow : 16 ≤ (byteAt data 0).toNat
    · rw [if_pos hrow]
      exact .inl rfl
    · rw [if_neg hrow]
      exact .inr ⟨_, _, _, hcells, .cells order horder (not_le.1 hrow), rfl⟩
  · rw [if_neg hcells]
    exact .inl rfl

theorem ingest_cases (pack : GoldenPhoenixPack) (state : PackState K) (canId : UInt32)
    (payload : Option (List UInt8)) (now : Double K) :
    pack.ingest state canId payload now = (false, pack, state) ∨
      ∃ data dataId pack' state', payload = some data ∧ data.length = 8 ∧ now.isFinite = true ∧
        canId = pack.responseId dataId ∧ Taken pack state data now dataId pack' state' ∧
        pack.ingest state canId payload now = (true, pack', state') := by
  rcases payload with - | data
  · exact .inl rfl
  · unfold ingest
    dsimp only
    split_ifs with hshape
    · exact .inl rfl
    · rw [not_or, not_not, Bool.not_eq_false] at hshape
      obtain ⟨hlength, hfinite⟩ := hshape
      rcases ingestPayload_cases hlength hfinite with hrefused | ⟨dataId, pack', state', h⟩
      · exact .inl hrefused
      · exact .inr ⟨data, dataId, pack', state', rfl, hlength, hfinite, h.1, h.2.1, h.2.2⟩

end GoldenPhoenixPack

end RobotDriver.Bms
