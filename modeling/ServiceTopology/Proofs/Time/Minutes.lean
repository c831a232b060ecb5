import ServiceTopology.Proofs.Time.Order
import ServiceTopology.Services

/-!
# Minutes of an application's window

The minutes of a window are the whole minutes that pass from its start, or from the application's registration
when that is later, to its end. They move with these moments; buckets of seconds are ordered as moments are, so
they move with the buckets.

A cache is any lookup of applications. Without one, and for an application that it does not know or whose
registration it does not know, a window counts from its start.
-/

namespace ServiceTopology

/-- Bucket at which an application registered, when a cache knows it. -/
def registrationIn (cache : Option (Int → Option Application)) (applicationId : Int) : Option Int :=
  (cache.bind (· applicationId)).bind (·.registration)

/-- Minutes of a window for an application, cut at its registration when a cache knows it. -/
def minutesBetween (cache : Option (Int → Option Application)) (applicationId start finish : Int) :
    Except Bucket.Error Int :=
  minutesOfWindow (registrationIn cache applicationId) start finish

/-- Stores answer from the lookup of their registry. -/
theorem Stores.minutes_eq (stores : Stores) : stores.minutes = minutesBetween (some stores.registry.find?) := rfl

/-! ## Whole minutes -/

/-- Seconds of the later of two moments. -/
theorem Moment.seconds_later (a b : Moment) : (a.later b).seconds = max a.seconds b.seconds := by
  unfold later
  by_cases h : a.seconds < b.seconds
  · rw [if_pos (show a < b from h), Nat.max_eq_right (Nat.le_of_lt h)]
  · rw [if_neg (show ¬a < b from h), Nat.max_eq_left (Nat.not_lt.mp h)]

/-- Seconds from which a window counts: those of its start, or of a later registration. -/
def countedFrom (opens : Moment) : Option Moment → Nat
  | none => opens.seconds
  | some registered => max opens.seconds registered.seconds

/-- Minutes that a window counts: the seconds that pass divided by sixty, rounded down, and at least one. -/
def minutesCounted (opens closes : Moment) (registered : Option Moment) : Int :=
  max 1 (((closes.seconds : Int) - countedFrom opens registered) / 60)

/-- Without a registration, all minutes of a window count. -/
theorem minutesFrom_eq (opens closes : Moment) : minutesFrom opens closes = minutesCounted opens closes none := by
  rw [minutesFrom, Int.fdiv_eq_ediv_of_nonneg _ (by decide), Int.max_comm]
  rfl

/-- The minutes from the later of two moments are those of a window that is cut. -/
theorem minutesFrom_later (opens registered closes : Moment) :
    minutesFrom (opens.later registered) closes = minutesCounted opens closes (some registered) := by
  rw [minutesFrom_eq, minutesCounted, countedFrom, Moment.seconds_later]
  rfl

/-- A window that counts from no later moment to no earlier one has no fewer minutes. -/
theorem minutesCounted_mono {opens opens' closes closes' : Moment} {registered registered' : Option Moment}
    (hfrom : countedFrom opens' registered' ≤ countedFrom opens registered)
    (hto : closes.seconds ≤ closes'.seconds) :
    minutesCounted opens closes registered ≤ minutesCounted opens' closes' registered' := by
  unfold minutesCounted
  omega

/-- A window counts from no earlier moment when its start moves on. -/
theorem countedFrom_mono {opens opens' : Moment} (h : opens.seconds ≤ opens'.seconds)
    (registered : Option Moment) : countedFrom opens registered ≤ countedFrom opens' registered := by
  cases registered with
  | none => exact h
  | some moment =>
    simp only [countedFrom]
    omega

/-- A window counts from no earlier moment when its registration moves on. -/
theorem countedFrom_mono_registered (opens : Moment) {registered registered' : Moment}
    (h : registered.seconds ≤ registered'.seconds) :
    countedFrom opens (some registered) ≤ countedFrom opens (some registered') := by
  simp only [countedFrom]
  omega

/-! ## Windows of buckets -/

/-- A bucket of seconds is read as a moment. -/
def ReadsAs (bucket : Int) (m : Moment) : Prop := Bucket.parse bucket .second = .ok m

variable {registration : Option Int} {start finish count : Int}

/-- Two computations that may fail give a result together when each does. -/
theorem bind_eq_ok {ε α β : Type} {first : Except ε α} {second : α → Except ε β} {result : β} :
    (first >>= second) = .ok result ↔ ∃ value, first = .ok value ∧ second value = .ok result := by
  cases first with
  | error error => simp [bind, Except.bind]
  | ok value => simp [bind, Except.bind]

/-- The minutes of a window can be told exactly when its buckets can be read, that of the registration included,
and are then those that the window counts. -/
theorem minutesOfWindow_eq_ok :
    minutesOfWindow registration start finish = .ok count ↔
      ∃ opens closes registered, ReadsAs start opens ∧ ReadsAs finish closes ∧
        Option.Rel ReadsAs registration registered ∧ count = minutesCounted opens closes registered := by
  simp only [minutesOfWindow, bind_eq_ok]
  cases registration with
  | none =>
    constructor
    · rintro ⟨opens, hopens, closes, hcloses, hcount⟩
      cases hcount
      exact ⟨opens, closes, none, hopens, hcloses, .none, minutesFrom_eq opens closes⟩
    · rintro ⟨opens, closes, _, hopens, hcloses, ⟨⟩, rfl⟩
      exact ⟨opens, hopens, closes, hcloses, congrArg Except.ok (minutesFrom_eq opens closes)⟩
  | some bucket =>
    simp only [bind_eq_ok]
    constructor
    · rintro ⟨opens, hopens, closes, hcloses, registered, hregistered, hcount⟩
      cases hcount
      exact ⟨opens, closes, some registered, hopens, hcloses, .some hregistered,
        minutesFrom_later opens registered closes⟩
    · rintro ⟨opens, closes, _, hopens, hcloses, @⟨_, registered, hregistered⟩, rfl⟩
      exact ⟨opens, hopens, closes, hcloses, registered, hregistered,
        congrArg Except.ok (minutesFrom_later opens registered closes)⟩

/-- The minutes of a window can be told exactly when its buckets are well formed. -/
theorem exists_minutesOfWindow_iff :
    (∃ count, minutesOfWindow registration start finish = .ok count) ↔
      Bucket.WellFormed start .second ∧ Bucket.WellFormed finish .second ∧
        ∀ bucket ∈ registration, Bucket.WellFormed bucket .second := by
  constructor
  · rintro ⟨count, h⟩
    obtain ⟨opens, closes, registered, hopens, hcloses, hregistered, -⟩ := minutesOfWindow_eq_ok.mp h
    refine ⟨⟨opens, hopens⟩, ⟨closes, hcloses⟩, fun bucket hbucket => ?_⟩
    cases hbucket
    obtain @⟨_, registered, hread⟩ := hregistered
    exact ⟨registered, hread⟩
  · rintro ⟨⟨opens, hopens⟩, ⟨closes, hcloses⟩, hwellFormed⟩
    cases registration with
    | none => exact ⟨_, minutesOfWindow_eq_ok.mpr ⟨opens, closes, none, hopens, hcloses, .none, rfl⟩⟩
    | some bucket =>
      obtain ⟨registered, hregistered⟩ := hwellFormed bucket rfl
      exact ⟨_, minutesOfWindow_eq_ok.mpr
        ⟨opens, closes, some registered, hopens, hcloses, .some hregistered, rfl⟩⟩

/-- The minutes of a window cannot be told exactly when one of its buckets is malformed. -/
theorem exists_error_minutesOfWindow_iff :
    (∃ error, minutesOfWindow registration start finish = .error error) ↔
      ¬(Bucket.WellFormed start .second ∧ Bucket.WellFormed finish .second ∧
        ∀ bucket ∈ registration, Bucket.WellFormed bucket .second) := by
  rw [← exists_minutesOfWindow_iff]
  cases minutesOfWindow registration start finish with
  | error error => simp
  | ok count => simp

/-- A later end leaves no fewer minutes. -/
theorem minutesOfWindow_mono_finish {later : Int} (h : minutesOfWindow registration start finish = .ok count)
    (hlater : Bucket.WellFormed later .second) (hle : finish ≤ later) :
    ∃ more, minutesOfWindow registration start later = .ok more ∧ count ≤ more := by
  obtain ⟨opens, closes, registered, hopens, hcloses, hregistered, rfl⟩ := minutesOfWindow_eq_ok.mp h
  obtain ⟨closes', hcloses'⟩ := hlater
  have hto := (Bucket.le_iff_of_parse hcloses hcloses').mp hle
  exact ⟨_, minutesOfWindow_eq_ok.mpr ⟨opens, closes', registered, hopens, hcloses', hregistered, rfl⟩,
    minutesCounted_mono (Nat.le_refl _) hto⟩

/-- A later start leaves no more minutes. -/
theorem minutesOfWindow_anti_start {later : Int} (h : minutesOfWindow registration start finish = .ok count)
    (hlater : Bucket.WellFormed later .second) (hle : start ≤ later) :
    ∃ fewer, minutesOfWindow registration later finish = .ok fewer ∧ fewer ≤ count := by
  obtain ⟨opens, closes, registered, hopens, hcloses, hregistered, rfl⟩ := minutesOfWindow_eq_ok.mp h
  obtain ⟨opens', hopens'⟩ := hlater
  have hfrom := (Bucket.le_iff_of_parse hopens hopens').mp hle
  exact ⟨_, minutesOfWindow_eq_ok.mpr ⟨opens', closes, registered, hopens', hcloses, hregistered, rfl⟩,
    minutesCounted_mono (countedFrom_mono hfrom registered) (Nat.le_refl _)⟩

/-- A later registration leaves no more minutes. -/
theorem minutesOfWindow_anti_registration {bucket later : Int}
    (h : minutesOfWindow (some bucket) start finish = .ok count)
    (hlater : Bucket.WellFormed later .second) (hle : bucket ≤ later) :
    ∃ fewer, minutesOfWindow (some later) start finish = .ok fewer ∧ fewer ≤ count := by
  obtain ⟨opens, closes, _, hopens, hcloses, ⟨hregistered⟩, rfl⟩ := minutesOfWindow_eq_ok.mp h
  obtain ⟨registered', hregistered'⟩ := hlater
  have hcut := (Bucket.le_iff_of_parse hregistered hregistered').mp hle
  exact ⟨_, minutesOfWindow_eq_ok.mpr ⟨opens, closes, some registered', hopens, hcloses, .some hregistered', rfl⟩,
    minutesCounted_mono (countedFrom_mono_registered opens hcut) (Nat.le_refl _)⟩

/-- A window that is not cut at a registration has no fewer minutes. -/
theorem minutesOfWindow_le_uncut (h : minutesOfWindow registration start finish = .ok count) :
    ∃ most, minutesOfWindow none start finish = .ok most ∧ count ≤ most := by
  obtain ⟨opens, closes, registered, hopens, hcloses, hregistered, rfl⟩ := minutesOfWindow_eq_ok.mp h
  have hfrom : countedFrom opens none ≤ countedFrom opens registered := by
    cases registered with
    | none => exact Nat.le_refl _
    | some moment => exact Nat.le_max_left _ _
  exact ⟨_, minutesOfWindow_eq_ok.mpr ⟨opens, closes, none, hopens, hcloses, .none, rfl⟩,
    minutesCounted_mono hfrom (Nat.le_refl _)⟩

/-- A registration at or before its start does not cut a window. -/
theorem minutesOfWindow_of_early {bucket : Int} (h : minutesOfWindow (some bucket) start finish = .ok count)
    (hle : bucket ≤ start) : minutesOfWindow none start finish = .ok count := by
  obtain ⟨opens, closes, _, hopens, hcloses, ⟨hregistered⟩, rfl⟩ := minutesOfWindow_eq_ok.mp h
  have hcut := (Bucket.le_iff_of_parse hregistered hopens).mp hle
  refine minutesOfWindow_eq_ok.mpr ⟨opens, closes, none, hopens, hcloses, .none, ?_⟩
  rw [minutesCounted, minutesCounted, countedFrom, countedFrom, Nat.max_eq_left hcut]

/-- For any cache, the minutes of a window for an application cannot be told exactly when the start, the end or
the registration that the cache knows is no bucket of a second. Otherwise they are the seconds from the later of the
start and the registration to the end, divided by sixty and rounded down, or one if that is less. So they are at
least one, they do not shrink when the end moves on or grow when the start or the registration does, the cache never
adds to them, and a registration at or before the start changes nothing. -/
theorem minutes_of_window (cache : Option (Int → Option Application)) (applicationId start finish : Int) :
    let registration := registrationIn cache applicationId
    let minutes := minutesBetween cache applicationId
    let wellFormed (bucket : Int) := Bucket.WellFormed bucket .second
    ((∃ error, minutes start finish = .error error) ↔
      ¬(wellFormed start ∧ wellFormed finish ∧ ∀ bucket ∈ registration, wellFormed bucket)) ∧
    (∀ opens closes registered, ReadsAs start opens → ReadsAs finish closes →
      Option.Rel ReadsAs registration registered →
        minutes start finish = .ok (max 1 (((closes.seconds : Int) - countedFrom opens registered) / 60))) ∧
    ∀ count, minutes start finish = .ok count →
      1 ≤ count ∧
      (∀ later, wellFormed later → finish ≤ later →
        ∃ more, minutes start later = .ok more ∧ count ≤ more) ∧
      (∀ later, wellFormed later → start ≤ later →
        ∃ fewer, minutes later finish = .ok fewer ∧ fewer ≤ count) ∧
      (∀ other, ∀ bucket ∈ registration, ∀ later ∈ registrationIn other applicationId, wellFormed later →
        bucket ≤ later →
          ∃ fewer, minutesBetween other applicationId start finish = .ok fewer ∧ fewer ≤ count) ∧
      (∃ most, minutesBetween none applicationId start finish = .ok most ∧ count ≤ most) ∧
      ∀ bucket ∈ registration, bucket ≤ start →
        minutesBetween none applicationId start finish = .ok count := by
  intro registration minutes wellFormed
  refine ⟨exists_error_minutesOfWindow_iff, fun opens closes registered hopens hcloses hregistered =>
    minutesOfWindow_eq_ok.mpr ⟨opens, closes, registered, hopens, hcloses, hregistered, rfl⟩,
    fun count h => ⟨?_, fun later => minutesOfWindow_mono_finish h, fun later => minutesOfWindow_anti_start h,
      ?_, minutesOfWindow_le_uncut h, ?_⟩⟩
  · obtain ⟨opens, closes, registered, -, -, -, rfl⟩ := minutesOfWindow_eq_ok.mp h
    exact Int.le_max_left _ _
  · intro other bucket hbucket later hlater hwellFormed hle
    have hcut : minutesOfWindow (some bucket) start finish = .ok count := hbucket ▸ h
    have hother : registrationIn other applicationId = some later := hlater
    rw [minutesBetween, hother]
    exact minutesOfWindow_anti_registration hcut hwellFormed hle
  · intro bucket hbucket hle
    have hcut : minutesOfWindow (some bucket) start finish = .ok count := hbucket ▸ h
    exact minutesOfWindow_of_early hcut hle

end ServiceTopology
