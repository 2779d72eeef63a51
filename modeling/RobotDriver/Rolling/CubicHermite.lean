import Mathlib.Data.Rat.Sqrt
import RobotDriver.Lib.Cubic

/-!
# CubicPolynomial Hermite segments

Construction, sampling and extrema of one axis of a segment, in exact arithmetic. The extrema are
the least enclosure of the segment that the root search finds; it is an enclosure whenever the
leading coefficient of the derivative is zero or above the root tolerance.
-/

namespace RobotDriver.Rolling

class SquareRoot (K : Type*) where
  squareRoot : K → K

instance : SquareRoot ℚ := ⟨Rat.sqrt⟩

noncomputable instance : SquareRoot ℝ := ⟨Real.sqrt⟩

structure CubicHermite (K : Type*) where
  startPosition : K
  startVelocity : K
  endPosition : K
  endVelocity : K
  durationSeconds : K
  c0 : K
  c1 : K
  c2 : K
  c3 : K

structure ScalarKinematicState (K : Type*) where
  position : K
  velocity : K
  acceleration : K

structure ScalarKinematicExtrema (K : Type*) where
  positionMin : K
  positionMax : K
  velocityPositive : K
  velocityNegative : K
  accelerationPositive : K
  accelerationNegative : K

variable {K : Type*} [Field K] [LinearOrder K]

def normalizedRootTolerance : K := 64 / 2 ^ 52

def normalizedCandidate (root : K) : Option K :=
  if root < -normalizedRootTolerance ∨ 1 + normalizedRootTolerance < root then none
  else some (max 0 (min root 1))

def copysign (magnitude sign : K) : K := if sign < 0 then -|magnitude| else |magnitude|

/-- The part of `realRoots` behind the test of the normalised leading coefficient. -/
def quadraticRoots [SquareRoot K] (a b c : K) : List K :=
  let discriminant := -4 * a * c + b * b
  let discriminantScale := b * b + |4 * a * c|
  let clamped :=
    if discriminant < 0 ∧ -discriminant ≤ normalizedRootTolerance * discriminantScale then 0
    else discriminant
  if clamped < 0 then []
  else
    let squareRoot := SquareRoot.squareRoot clamped
    if squareRoot = 0 then [-b / (2 * a)]
    else
      let q := -(1 / 2) * (b + copysign squareRoot b)
      if q ≠ 0 then [q / a, c / q] else [q / a]

def rootScale (quadratic linear constant : K) : K := max (max |quadratic| |linear|) |constant|

def realRoots [SquareRoot K] (quadratic linear constant : K) : List K :=
  let scale := rootScale quadratic linear constant
  if scale = 0 then []
  else
    let a := quadratic / scale
    let b := linear / scale
    let c := constant / scale
    if |a| ≤ normalizedRootTolerance then
      if normalizedRootTolerance < |b| then [-c / b] else []
    else quadraticRoots a b c

def buildCubicHermite (startPosition startVelocity endPosition endVelocity durationSeconds : K) :
    Option (CubicHermite K) :=
  if durationSeconds ≤ 0 then none
  else some
    { startPosition, startVelocity, endPosition, endVelocity, durationSeconds
      c0 := startPosition
      c1 := durationSeconds * startVelocity
      c2 := -3 * startPosition - 2 * durationSeconds * startVelocity + 3 * endPosition -
        durationSeconds * endVelocity
      c3 := 2 * startPosition + durationSeconds * startVelocity - 2 * endPosition +
        durationSeconds * endVelocity }

def sampleCubicHermite (segment : CubicHermite K) (normalizedTime : K) :
    Option (ScalarKinematicState K) :=
  if segment.durationSeconds ≤ 0 ∨ normalizedTime < 0 ∨ 1 < normalizedTime then none
  else
    let acceleration := (2 * segment.c2 + 6 * segment.c3 * normalizedTime) /
      (segment.durationSeconds * segment.durationSeconds)
    if normalizedTime = 0 then some ⟨segment.startPosition, segment.startVelocity, acceleration⟩
    else if normalizedTime = 1 then some ⟨segment.endPosition, segment.endVelocity, acceleration⟩
    else some
      ⟨((segment.c3 * normalizedTime + segment.c2) * normalizedTime + segment.c1) *
          normalizedTime + segment.c0,
        ((3 * segment.c3 * normalizedTime + 2 * segment.c2) * normalizedTime + segment.c1) /
          segment.durationSeconds,
        acceleration⟩

def addExtremumCandidate (segment : CubicHermite K) (extrema : ScalarKinematicExtrema K)
    (root : K) : Option (ScalarKinematicExtrema K) :=
  match normalizedCandidate root with
  | none => some extrema
  | some normalizedTime => (sampleCubicHermite segment normalizedTime).map fun state =>
    { extrema with
      positionMin := min extrema.positionMin state.position
      positionMax := max extrema.positionMax state.position }

def addVelocityCandidate (segment : CubicHermite K) (extrema : ScalarKinematicExtrema K)
    (root : K) : Option (ScalarKinematicExtrema K) :=
  match normalizedCandidate root with
  | none => some extrema
  | some normalizedTime => (sampleCubicHermite segment normalizedTime).map fun state =>
    { extrema with
      velocityPositive := max extrema.velocityPositive state.velocity
      velocityNegative := max extrema.velocityNegative (-state.velocity) }

def computeCubicHermiteExtrema [SquareRoot K] (segment : CubicHermite K) :
    Option (ScalarKinematicExtrema K) := do
  let start ← sampleCubicHermite segment 0
  let end' ← sampleCubicHermite segment 1
  let candidate : ScalarKinematicExtrema K :=
    { positionMin := min start.position end'.position
      positionMax := max start.position end'.position
      velocityPositive := max (max start.velocity end'.velocity) 0
      velocityNegative := max (max (-start.velocity) (-end'.velocity)) 0
      accelerationPositive := max (max start.acceleration end'.acceleration) 0
      accelerationNegative := max (max (-start.acceleration) (-end'.acceleration)) 0 }
  let candidate ← (realRoots (3 * segment.c3) (2 * segment.c2) segment.c1).foldlM
    (addExtremumCandidate segment) candidate
  let candidate ← (realRoots 0 (6 * segment.c3) (2 * segment.c2)).foldlM
    (addVelocityCandidate segment) candidate
  return { candidate with
    velocityPositive := max candidate.velocityPositive 0
    velocityNegative := max candidate.velocityNegative 0 }

namespace CubicHermite

def cubic (segment : CubicHermite K) : CubicPolynomial K :=
  ⟨segment.c0, segment.c1, segment.c2, segment.c3⟩

/-- A segment as `buildCubicHermite` leaves it. -/
structure Built (segment : CubicHermite K) : Prop where
  duration_pos : 0 < segment.durationSeconds
  cubic_eq : segment.cubic = .hermite segment.startPosition
    (segment.durationSeconds * segment.startVelocity) segment.endPosition
    (segment.durationSeconds * segment.endVelocity)

theorem built_of_build {x v x' v' duration : K} {segment : CubicHermite K}
    (h : buildCubicHermite x v x' v' duration = some segment) :
    segment.Built ∧ segment.startPosition = x ∧ segment.startVelocity = v ∧
      segment.endPosition = x' ∧ segment.endVelocity = v' ∧
      segment.durationSeconds = duration := by
  unfold buildCubicHermite at h
  split at h
  · cases h
  · rename_i hduration
    cases h
    refine ⟨⟨not_le.1 hduration, ?_⟩, rfl, rfl, rfl, rfl, rfl⟩
    ext <;> simp only [cubic, CubicPolynomial.hermite]
    ring

def position (segment : CubicHermite K) (t : K) : K := segment.cubic.eval t

def velocity (segment : CubicHermite K) (t : K) : K :=
  segment.cubic.deriv t / segment.durationSeconds

def acceleration (segment : CubicHermite K) (t : K) : K :=
  segment.cubic.second t / (segment.durationSeconds * segment.durationSeconds)

theorem Built.sample {segment : CubicHermite K} (h : segment.Built) {t : K} (h0 : 0 ≤ t)
    (h1 : t ≤ 1) : sampleCubicHermite segment t =
      some ⟨segment.position t, segment.velocity t, segment.acceleration t⟩ := by
  have hduration := h.duration_pos
  have hstart : segment.position 0 = segment.startPosition ∧
      segment.velocity 0 = segment.startVelocity := by
    refine ⟨?_, ?_⟩
    · simp [position, h.cubic_eq, CubicPolynomial.hermite]
    · simp [velocity, h.cubic_eq, CubicPolynomial.hermite, hduration.ne']
  have hend : segment.position 1 = segment.endPosition ∧
      segment.velocity 1 = segment.endVelocity := by
    refine ⟨?_, ?_⟩
    · rw [position, h.cubic_eq, CubicPolynomial.hermite_eval_one]
    · rw [velocity, h.cubic_eq, CubicPolynomial.hermite_deriv_one,
        mul_div_cancel_left₀ _ hduration.ne']
  unfold sampleCubicHermite
  rw [if_neg (by simp [not_le.2 hduration, not_lt.2 h0, not_lt.2 h1])]
  by_cases hzero : t = 0
  · subst hzero
    rw [hstart.1, hstart.2]
    simp [acceleration, CubicPolynomial.second, cubic]
  · by_cases hone : t = 1
    · subst hone
      rw [hend.1, hend.2]
      simp [acceleration, CubicPolynomial.second, cubic]
    · rw [if_neg hzero, if_neg hone]
      rfl

/-- Bounds of a segment over its whole duration. -/
structure Encloses (segment : CubicHermite K) (extrema : ScalarKinematicExtrema K) : Prop where
  positionMin : ∀ t, 0 ≤ t → t ≤ 1 → extrema.positionMin ≤ segment.position t
  positionMax : ∀ t, 0 ≤ t → t ≤ 1 → segment.position t ≤ extrema.positionMax
  velocityPositive : ∀ t, 0 ≤ t → t ≤ 1 → segment.velocity t ≤ extrema.velocityPositive
  velocityNegative : ∀ t, 0 ≤ t → t ≤ 1 → -segment.velocity t ≤ extrema.velocityNegative
  accelerationPositive :
    ∀ t, 0 ≤ t → t ≤ 1 → segment.acceleration t ≤ extrema.accelerationPositive
  accelerationNegative :
    ∀ t, 0 ≤ t → t ≤ 1 → -segment.acceleration t ≤ extrema.accelerationNegative
  velocityPositive_nonneg : 0 ≤ extrema.velocityPositive
  velocityNegative_nonneg : 0 ≤ extrema.velocityNegative
  accelerationPositive_nonneg : 0 ≤ extrema.accelerationPositive
  accelerationNegative_nonneg : 0 ≤ extrema.accelerationNegative

end CubicHermite

/-- Tighter bounds. -/
structure ScalarKinematicExtrema.Within (inner outer : ScalarKinematicExtrema K) : Prop where
  positionMin : outer.positionMin ≤ inner.positionMin
  positionMax : inner.positionMax ≤ outer.positionMax
  velocityPositive : inner.velocityPositive ≤ outer.velocityPositive
  velocityNegative : inner.velocityNegative ≤ outer.velocityNegative
  accelerationPositive : inner.accelerationPositive ≤ outer.accelerationPositive
  accelerationNegative : inner.accelerationNegative ≤ outer.accelerationNegative

section Extrema

variable [IsStrictOrderedRing K]

theorem normalizedCandidate_mem {root t : K} (h : normalizedCandidate root = some t) :
    0 ≤ t ∧ t ≤ 1 := by
  unfold normalizedCandidate at h
  split at h
  · cases h
  · cases h
    exact ⟨le_max_left _ _, max_le zero_le_one (min_le_right _ _)⟩

theorem normalizedTolerance_pos : (0 : K) < normalizedRootTolerance := by
  unfold normalizedRootTolerance
  positivity

theorem normalizedCandidate_of_mem {t : K} (h0 : 0 ≤ t) (h1 : t ≤ 1) :
    normalizedCandidate t = some t := by
  have hpos := normalizedTolerance_pos (K := K)
  unfold normalizedCandidate
  rw [if_neg (by rw [not_or, not_lt, not_lt]; exact ⟨by linarith, by linarith⟩), min_eq_left h1,
    max_eq_right h0]

variable {segment : CubicHermite K} {extrema extrema' : ScalarKinematicExtrema K}

theorem addExtremumCandidate_eq (hbuilt : segment.Built) {root : K} :
    addExtremumCandidate segment extrema root =
      some (match normalizedCandidate root with
        | none => extrema
        | some t =>
          { extrema with
            positionMin := min extrema.positionMin (segment.position t)
            positionMax := max extrema.positionMax (segment.position t) }) := by
  unfold addExtremumCandidate
  cases h : normalizedCandidate root with
  | none => rfl
  | some t =>
    obtain ⟨h0, h1⟩ := normalizedCandidate_mem h
    dsimp only
    rw [hbuilt.sample h0 h1]
    rfl

theorem addVelocityCandidate_eq (hbuilt : segment.Built) {root : K} :
    addVelocityCandidate segment extrema root =
      some (match normalizedCandidate root with
        | none => extrema
        | some t =>
          { extrema with
            velocityPositive := max extrema.velocityPositive (segment.velocity t)
            velocityNegative := max extrema.velocityNegative (-segment.velocity t) }) := by
  unfold addVelocityCandidate
  cases h : normalizedCandidate root with
  | none => rfl
  | some t =>
    obtain ⟨h0, h1⟩ := normalizedCandidate_mem h
    dsimp only
    rw [hbuilt.sample h0 h1]
    rfl

theorem forall_candidates {P : K → Prop} {root : K} {roots : List K}
    (hroot : ∀ t, normalizedCandidate root = some t → P t)
    (hroots : ∀ other ∈ roots, 0 ≤ other → other ≤ 1 → P other) :
    ∀ other ∈ root :: roots, 0 ≤ other → other ≤ 1 → P other :=
  List.forall_mem_cons.2 ⟨fun h0 h1 => hroot root (normalizedCandidate_of_mem h0 h1), hroots⟩

/-- What the candidates of the position extrema make of the bounds. -/
structure PositionFold (segment : CubicHermite K) (roots : List K)
    (before after : ScalarKinematicExtrema K) : Prop where
  positionMin_le : after.positionMin ≤ before.positionMin
  le_positionMax : before.positionMax ≤ after.positionMax
  root_bounds : ∀ root ∈ roots, 0 ≤ root → root ≤ 1 →
    after.positionMin ≤ segment.position root ∧ segment.position root ≤ after.positionMax
  le_positionMin : ∀ bound ≤ before.positionMin,
    (∀ t, 0 ≤ t → t ≤ 1 → bound ≤ segment.position t) → bound ≤ after.positionMin
  positionMax_le : ∀ bound, before.positionMax ≤ bound →
    (∀ t, 0 ≤ t → t ≤ 1 → segment.position t ≤ bound) → after.positionMax ≤ bound
  velocityPositive : after.velocityPositive = before.velocityPositive
  velocityNegative : after.velocityNegative = before.velocityNegative
  accelerationPositive : after.accelerationPositive = before.accelerationPositive
  accelerationNegative : after.accelerationNegative = before.accelerationNegative

theorem foldlM_addExtremumCandidate (hbuilt : segment.Built) (roots : List K)
    (before : ScalarKinematicExtrema K) :
    ∃ after, roots.foldlM (addExtremumCandidate segment) before = some after ∧
      PositionFold segment roots before after := by
  induction roots generalizing before with
  | nil =>
    exact ⟨before, rfl, le_rfl, le_rfl, fun _ h => absurd h List.not_mem_nil, fun _ h _ => h,
      fun _ h _ => h, rfl, rfl, rfl, rfl⟩
  | cons root roots ih =>
    rw [List.foldlM_cons, addExtremumCandidate_eq hbuilt, Option.bind_eq_bind, Option.bind_some]
    cases hcandidate : normalizedCandidate root with
    | none =>
      obtain ⟨after, heq, hfold⟩ := ih before
      exact ⟨after, heq, { hfold with
        root_bounds := forall_candidates (fun t h => nomatch hcandidate.symm.trans h)
          hfold.root_bounds }⟩
    | some t =>
      obtain ⟨ht0, ht1⟩ := normalizedCandidate_mem hcandidate
      obtain ⟨after, heq, hfold⟩ := ih { before with
        positionMin := min before.positionMin (segment.position t)
        positionMax := max before.positionMax (segment.position t) }
      refine ⟨after, heq, hfold.positionMin_le.trans (min_le_left _ _),
        (le_max_left _ _).trans hfold.le_positionMax,
        forall_candidates (fun other hother => ?_) hfold.root_bounds,
        fun bound hbound hall => hfold.le_positionMin bound (le_min hbound (hall t ht0 ht1)) hall,
        fun bound hbound hall => hfold.positionMax_le bound (max_le hbound (hall t ht0 ht1)) hall,
        hfold.velocityPositive, hfold.velocityNegative, hfold.accelerationPositive,
        hfold.accelerationNegative⟩
      obtain rfl : t = other := Option.some.inj (hcandidate.symm.trans hother)
      exact ⟨hfold.positionMin_le.trans (min_le_right _ _),
        (le_max_right _ _).trans hfold.le_positionMax⟩

/-- What the candidates of the velocity extrema make of the bounds. -/
structure VelocityFold (segment : CubicHermite K) (roots : List K)
    (before after : ScalarKinematicExtrema K) : Prop where
  le_velocityPositive : before.velocityPositive ≤ after.velocityPositive
  le_velocityNegative : before.velocityNegative ≤ after.velocityNegative
  root_bounds : ∀ root ∈ roots, 0 ≤ root → root ≤ 1 →
    segment.velocity root ≤ after.velocityPositive ∧
      -segment.velocity root ≤ after.velocityNegative
  velocityPositive_le : ∀ bound, before.velocityPositive ≤ bound →
    (∀ t, 0 ≤ t → t ≤ 1 → segment.velocity t ≤ bound) → after.velocityPositive ≤ bound
  velocityNegative_le : ∀ bound, before.velocityNegative ≤ bound →
    (∀ t, 0 ≤ t → t ≤ 1 → -segment.velocity t ≤ bound) → after.velocityNegative ≤ bound
  positionMin : after.positionMin = before.positionMin
  positionMax : after.positionMax = before.positionMax
  accelerationPositive : after.accelerationPositive = before.accelerationPositive
  accelerationNegative : after.accelerationNegative = before.accelerationNegative

theorem foldlM_addVelocityCandidate (hbuilt : segment.Built) (roots : List K)
    (before : ScalarKinematicExtrema K) :
    ∃ after, roots.foldlM (addVelocityCandidate segment) before = some after ∧
      VelocityFold segment roots before after := by
  induction roots generalizing before with
  | nil =>
    exact ⟨before, rfl, le_rfl, le_rfl, fun _ h => absurd h List.not_mem_nil, fun _ h _ => h,
      fun _ h _ => h, rfl, rfl, rfl, rfl⟩
  | cons root roots ih =>
    rw [List.foldlM_cons, addVelocityCandidate_eq hbuilt, Option.bind_eq_bind, Option.bind_some]
    cases hcandidate : normalizedCandidate root with
    | none =>
      obtain ⟨after, heq, hfold⟩ := ih before
      exact ⟨after, heq, { hfold with
        root_bounds := forall_candidates (fun t h => nomatch hcandidate.symm.trans h)
          hfold.root_bounds }⟩
    | some t =>
      obtain ⟨ht0, ht1⟩ := normalizedCandidate_mem hcandidate
      obtain ⟨after, heq, hfold⟩ := ih { before with
        velocityPositive := max before.velocityPositive (segment.velocity t)
        velocityNegative := max before.velocityNegative (-segment.velocity t) }
      refine ⟨after, heq, (le_max_left _ _).trans hfold.le_velocityPositive,
        (le_max_left _ _).trans hfold.le_velocityNegative,
        forall_candidates (fun other hother => ?_) hfold.root_bounds,
        fun bound hbound hall =>
          hfold.velocityPositive_le bound (max_le hbound (hall t ht0 ht1)) hall,
        fun bound hbound hall =>
          hfold.velocityNegative_le bound (max_le hbound (hall t ht0 ht1)) hall,
        hfold.positionMin, hfold.positionMax, hfold.accelerationPositive,
        hfold.accelerationNegative⟩
      obtain rfl : t = other := Option.some.inj (hcandidate.symm.trans hother)
      exact ⟨(le_max_right _ _).trans hfold.le_velocityPositive,
        (le_max_right _ _).trans hfold.le_velocityNegative⟩

variable [SquareRoot K]

/-- The bounds before the root search. -/
def endpointExtrema (segment : CubicHermite K) : ScalarKinematicExtrema K where
  positionMin := min (segment.position 0) (segment.position 1)
  positionMax := max (segment.position 0) (segment.position 1)
  velocityPositive := max (max (segment.velocity 0) (segment.velocity 1)) 0
  velocityNegative := max (max (-segment.velocity 0) (-segment.velocity 1)) 0
  accelerationPositive := max (max (segment.acceleration 0) (segment.acceleration 1)) 0
  accelerationNegative := max (max (-segment.acceleration 0) (-segment.acceleration 1)) 0

theorem computeCubicHermiteExtrema_eq (hbuilt : segment.Built) :
    ∃ positions velocities, computeCubicHermiteExtrema segment = some velocities ∧
      PositionFold segment (realRoots (3 * segment.c3) (2 * segment.c2) segment.c1)
        (endpointExtrema segment) positions ∧
      VelocityFold segment (realRoots 0 (6 * segment.c3) (2 * segment.c2)) positions
        velocities := by
  obtain ⟨positions, hpositions, hpositionFold⟩ := foldlM_addExtremumCandidate hbuilt
    (realRoots (3 * segment.c3) (2 * segment.c2) segment.c1) (endpointExtrema segment)
  obtain ⟨velocities, hvelocities, hvelocityFold⟩ := foldlM_addVelocityCandidate hbuilt
    (realRoots 0 (6 * segment.c3) (2 * segment.c2)) positions
  have hpositive : 0 ≤ velocities.velocityPositive := by
    refine le_trans ?_ hvelocityFold.le_velocityPositive
    rw [hpositionFold.velocityPositive]
    exact le_max_right _ _
  have hnegative : 0 ≤ velocities.velocityNegative := by
    refine le_trans ?_ hvelocityFold.le_velocityNegative
    rw [hpositionFold.velocityNegative]
    exact le_max_right _ _
  refine ⟨positions, velocities, ?_, hpositionFold, hvelocityFold⟩
  unfold computeCubicHermiteExtrema
  rw [hbuilt.sample le_rfl zero_le_one, hbuilt.sample zero_le_one le_rfl]
  simp only [Option.bind_eq_bind, Option.bind_some]
  unfold endpointExtrema at hpositions
  rw [hpositions, Option.bind_some, hvelocities, Option.bind_some, max_eq_left hpositive,
    max_eq_left hnegative]
  rfl

theorem extrema_within (hbuilt : segment.Built)
    (h : computeCubicHermiteExtrema segment = some extrema) (henclosed : segment.Encloses extrema') :
    extrema.Within extrema' := by
  obtain ⟨positions, velocities, heq, hpositions, hvelocities⟩ :=
    computeCubicHermiteExtrema_eq hbuilt
  obtain rfl : velocities = extrema := Option.some.inj (heq.symm.trans h)
  have h0 : (0 : K) ≤ 1 := zero_le_one
  constructor
  · rw [hvelocities.positionMin]
    exact hpositions.le_positionMin _
      (le_min (henclosed.positionMin 0 le_rfl h0) (henclosed.positionMin 1 h0 le_rfl))
      henclosed.positionMin
  · rw [hvelocities.positionMax]
    exact hpositions.positionMax_le _
      (max_le (henclosed.positionMax 0 le_rfl h0) (henclosed.positionMax 1 h0 le_rfl))
      henclosed.positionMax
  · refine hvelocities.velocityPositive_le _ ?_ henclosed.velocityPositive
    rw [hpositions.velocityPositive]
    exact max_le (max_le (henclosed.velocityPositive 0 le_rfl h0)
      (henclosed.velocityPositive 1 h0 le_rfl)) henclosed.velocityPositive_nonneg
  · refine hvelocities.velocityNegative_le _ ?_ henclosed.velocityNegative
    rw [hpositions.velocityNegative]
    exact max_le (max_le (henclosed.velocityNegative 0 le_rfl h0)
      (henclosed.velocityNegative 1 h0 le_rfl)) henclosed.velocityNegative_nonneg
  · rw [hvelocities.accelerationPositive, hpositions.accelerationPositive]
    exact max_le (max_le (henclosed.accelerationPositive 0 le_rfl h0)
      (henclosed.accelerationPositive 1 h0 le_rfl)) henclosed.accelerationPositive_nonneg
  · rw [hvelocities.accelerationNegative, hpositions.accelerationNegative]
    exact max_le (max_le (henclosed.accelerationNegative 0 le_rfl h0)
      (henclosed.accelerationNegative 1 h0 le_rfl)) henclosed.accelerationNegative_nonneg

theorem extrema_acceleration (hbuilt : segment.Built)
    (h : computeCubicHermiteExtrema segment = some extrema) {t : K} (h0 : 0 ≤ t) (h1 : t ≤ 1) :
    segment.acceleration t ≤ extrema.accelerationPositive ∧
      -segment.acceleration t ≤ extrema.accelerationNegative := by
  obtain ⟨positions, velocities, heq, hpositions, hvelocities⟩ :=
    computeCubicHermiteExtrema_eq hbuilt
  obtain rfl : velocities = extrema := Option.some.inj (heq.symm.trans h)
  rw [hvelocities.accelerationPositive, hpositions.accelerationPositive,
    hvelocities.accelerationNegative, hpositions.accelerationNegative]
  have hsquare : 0 < segment.durationSeconds * segment.durationSeconds :=
    mul_pos hbuilt.duration_pos hbuilt.duration_pos
  constructor
  · refine le_trans ?_ (le_max_left _ _)
    unfold CubicHermite.acceleration
    rw [max_div_div_right hsquare.le]
    exact div_le_div_of_nonneg_right
      (segment.cubic.second_le (le_max_left _ _) (le_max_right _ _) h0 h1) hsquare.le
  · refine le_trans ?_ (le_max_left _ _)
    rw [max_neg_neg]
    refine neg_le_neg ?_
    unfold CubicHermite.acceleration
    rw [min_div_div_right hsquare.le]
    exact div_le_div_of_nonneg_right
      (segment.cubic.le_second (min_le_left _ _) (min_le_right _ _) h0 h1) hsquare.le

end Extrema

end RobotDriver.Rolling
