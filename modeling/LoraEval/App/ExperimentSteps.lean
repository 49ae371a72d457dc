import LoraEval.App.ScreenSteps

namespace LoraEval.App

open LoraEval.Core

def PhoneEvent.creations : PhoneEvent → Nat
  | .experimentReady _ _ => 1
  | _ => 0

/-- The event is no acknowledgement that comes after the end of the experiment. -/
def PhoneEvent.Prompt (platform : Platform) (phone : Phone) (event : PhoneEvent) : Prop :=
  event = .general (-6) → ∀ screen, phone.screen = .startExperiment screen →
    ∀ entry, phone.record platform screen.experimentNumber = some entry → ¬ entry.IsFinished

/-- A finished record later on: only computed columns and missing positions have changed. -/
def Entry.Kept (old new : Entry) : Prop :=
  new.IsFinished ∧ ∀ column, column ∉ computedColumns →
    new.get column = old.get column ∨ column ∈ positionColumns ∧ old.get column = some "-1"

theorem Entry.Kept.trans {old between new : Entry} (first : old.Kept between) (second : between.Kept new) :
    old.Kept new := by
  refine ⟨second.1, fun column other => ?_⟩
  rcases first.2 column other with same | missing
  · rcases second.2 column other with later | ⟨position, marker⟩
    · exact .inl (later.trans same)
    · exact .inr ⟨position, same.symm.trans marker⟩
  · exact .inr missing

namespace Phone

variable {platform : Platform} {prompt : Prop} {phone next : Phone} {number : BitVec 32} {entry : Entry}

/-- What a step that creates at most `count` experiments does. -/
structure Steps (platform : Platform) (prompt : Prop) (phone next : Phone) (count : Nat) : Prop where
  inv : Inv platform prompt next
  grows : created phone.calls ≤ created next.calls
  bounded : created next.calls ≤ created phone.calls + count
  absent : ∀ number : BitVec 32, number.toInt ≤ created phone.calls → phone.record platform number = none →
    next.record platform number = none
  kept : prompt → ∀ number old new, phone.record platform number = some old → old.IsFinished →
    next.record platform number = some new → old.Kept new

theorem Steps.of_evolves (evolves : Evolves platform prompt phone next) (inv : Inv platform prompt next)
    (count : Nat) : Steps platform prompt phone next count where
  inv := inv
  grows := evolves.created.ge
  bounded := by rw [evolves.created]; exact Nat.le_add_right _ _
  absent number _ absent := evolves.absent number absent
  kept promptly number old new found finished found' := by
    have edits := evolves.record found found'
    exact ⟨edits.finished finished, edits.kept promptly finished⟩

theorem Steps.after {middle : Phone} (inv : Inv platform prompt next)
    (evolves : Evolves platform prompt phone middle) (same : next.calls = middle.calls) (count : Nat) :
    Steps platform prompt phone next count :=
  .of_evolves (evolves.trans (.of_calls same)) inv count

theorem Steps.of_screen (consistent : Consistent platform phone) (same : next.calls = phone.calls)
    (fetching : ∀ number ∈ next.fetching, number ∈ phone.fetching) (uploads : next.uploads = phone.uploads)
    (on : OnScreen platform prompt phone next.screen) (count : Nat) :
    Steps platform prompt phone next count :=
  .of_evolves (.of_calls same) ⟨consistent.of_calls same fetching uploads, on.computes (.of_calls same)⟩ count

theorem Steps.display (consistent : Consistent platform phone) {screen : Screen}
    (on : OnScreen platform prompt phone screen) (count : Nat) :
    Steps platform prompt phone (phone.display screen) count :=
  have same : (phone.display screen).calls = phone.calls := rfl
  .of_screen consistent same (fun _ member => member) rfl on count

theorem Steps.write (consistent : Consistent platform phone) {calls : List DatabaseCall} {screen : Screen}
    (evolves : Evolves platform prompt phone (phone.write calls))
    (on : OnScreen platform prompt (phone.write calls) screen) (count : Nat) :
    Steps platform prompt phone ((phone.write calls).display screen) count := by
  have shown : Evolves platform prompt (phone.write calls) ((phone.write calls).display screen) :=
    .of_calls rfl
  refine .of_evolves (evolves.trans shown) ⟨?_, on.computes (.of_calls rfl)⟩ count
  exact consistent.evolves (evolves.trans shown) (fun _ member => member) rfl

theorem Steps.crash (consistent : Consistent platform phone) (foreign : fault.ofRecords = false)
    (count : Nat) :
    Steps platform prompt phone (phone.crash fault) count :=
  have evolves : Evolves platform prompt phone (phone.crash fault) := .of_calls rfl
  .of_evolves evolves (.crash consistent foreign) count

theorem Steps.same (inv : Inv platform prompt phone) (count : Nat) :
    Steps platform prompt phone phone count :=
  .of_evolves (.of_calls rfl) inv count

theorem Steps.overview (consistent : Consistent platform phone) (count : Nat) :
    Steps platform prompt phone (phone.showOverview platform) count :=
  have on : OnScreen platform prompt phone (.overview (phone.store platform).getPrimaryColumn) := rfl
  .display consistent on count

/-- Selecting a listed experiment opens the screen for its state. -/
theorem Steps.select (consistent : Consistent platform phone)
    (member : number ∈ (phone.store platform).getPrimaryColumn) (count : Nat) :
    Steps platform prompt phone (phone.withRecord platform number fun entry =>
      phone.withState entry fun ready =>
        if ready then phone.display (.prepareSender ⟨number, false, false, false⟩)
        else phone.onCreate platform number) count := by
  obtain ⟨entry, found⟩ := consistent.listed member
  rw [withRecord_eq found]
  rcases (consistent.sound number entry found).state with ready | finished
  · rw [withState_ready ready]
    have on : OnScreen platform prompt phone (.prepareSender ⟨number, false, false, false⟩) :=
      ⟨entry, found, ready, by simp⟩
    exact .display consistent on count
  · rw [withState_finished finished]
    obtain ⟨evolves, inv⟩ : Evolves platform prompt _ _ ∧ Inv platform prompt _ :=
      consistent.onCreate found fun column _ high =>
        (consistent.sound number entry found).complete finished column (by omega)
    exact .of_evolves evolves inv count

theorem Steps.delete (consistent : Consistent platform phone)
    (member : number ∈ (phone.store platform).getPrimaryColumn) (count : Nat) :
    Steps platform prompt phone
      (match ((phone.store platform).deleteExperiment number).2 with
        | some error => (phone.write [.deleteExperiment number]).crash (.database error)
        | none => (phone.write [.deleteExperiment number]).showOverview platform) count := by
  obtain ⟨entry, found⟩ := consistent.listed member
  have table := consistent.separate.tables number (Option.isSome_of_eq_some found)
  have done : ((phone.store platform).deleteExperiment number).2 = none := by
    have named : ((phone.store platform).tables (resultTable number.toInt)).isSome = true := table
    simp [ExperimentStore.deleteExperiment, named]
  have records (other : BitVec 32) : (phone.write [.deleteExperiment number]).record platform other =
      if number = other then none else phone.record platform other := by
    rw [record, store_write]
    exact getExperimentInfo_deleteExperiment _ number other
  have count' : created (phone.calls ++ [.deleteExperiment number]) = created phone.calls := by
    rw [created_append]
    rfl
  have old {other : BitVec 32} {record' : Entry}
      (held : (phone.write [.deleteExperiment number]).record platform other = some record') :
      phone.record platform other = some record' := by
    rw [records] at held
    split at held
    · cases held
    · exact held
  rw [done]
  refine ⟨⟨⟨?_, ?_, fun other record' held => consistent.sound other record' (old held),
    fun other fetched => ?_, consistent.uploaded⟩, rfl⟩, count'.ge, ?_, fun other _ absent => ?_,
    fun promptly other record' new held finished held' => ?_⟩
  · exact count'.trans_lt consistent.few
  · exact List.forall_mem_append.mpr ⟨consistent.plain, by simp [DatabaseCall.setsKey]⟩
  · obtain ⟨bound, finished⟩ := consistent.fetched other fetched
    exact ⟨bound.trans (by exact_mod_cast count'.ge), fun record' held => finished record' (old held)⟩
  · exact count'.le.trans (Nat.le_add_right _ _)
  · have gone := records other
    rw [absent] at gone
    exact gone.trans (by split <;> rfl)
  · obtain rfl : record' = new := Option.some.inj (held.symm.trans (old held'))
    exact ⟨finished, fun _ _ => .inl rfl⟩

theorem Consistent.create (consistent : Consistent platform phone) (room : created phone.calls + 1 < 2 ^ 31)
    (form : Form) :
    ((phone.store platform).create form.values).2 = none ∧
      ((phone.write [.create form.values]).store platform).getLastPos =
        some (BitVec.ofInt 32 (created phone.calls + 1 : Nat)) ∧
      ∀ other, (phone.write [.create form.values]).record platform other =
        if other.toInt = created phone.calls + 1 then some (form.record (created phone.calls + 1))
        else phone.record platform other := by
  have separate := consistent.separate
  have whole : (BitVec.ofInt 32 (created phone.calls + 1 : Nat)).toInt = (created phone.calls + 1 : Nat) := by
    rw [BitVec.toInt_ofInt, Int.bmod_eq_of_le (by omega) (by omega)]
  have word : isIdentifier (resultTable (created phone.calls + 1 : Nat)) = true :=
    (isIdentifier_resultTable _).mpr (Int.natCast_nonneg _)
  refine ⟨?_, (databaseAfter_create separate.toNumbered (by omega) form.values).2, fun other => ?_⟩
  · rw [ExperimentStore.create, separate.getLastPos (by omega)]
    simp only [ExperimentStore.createTableForIterations, whole, word, if_true]
  · have few : created (phone.calls ++ [.create form.values]) < 2 ^ 31 := by
      rw [created_append]
      exact room
    have plain : (DatabaseCall.create form.values).setsKey = false := rfl
    have found := separate.getExperimentInfo platform.affinity plain few other
    rw [record, store_write, found]
    by_cases new : other.toInt = created phone.calls + 1
    · have number : ((created phone.calls : Int) + 1).toNat = created phone.calls + 1 := rfl
      simp [DatabaseCall.names, DatabaseCall.act, new, number, newEntry_values]
    · simp [DatabaseCall.names, new, record]

theorem Steps.create (consistent : Consistent platform phone) (room : created phone.calls + 1 < 2 ^ 31)
    (form : Form) (startNow : Bool) :
    Steps platform prompt phone
      (match ((phone.store platform).create form.values).2,
          ((phone.write [.create form.values]).store platform).getLastPos with
        | some error, _ => (phone.write [.create form.values]).crash (.database error)
        | none, none => (phone.write [.create form.values]).crash (.database .cursorIndex)
        | none, some lastPos =>
          if startNow then
            (phone.write [.create form.values]).display (.prepareSender ⟨lastPos, false, false, false⟩)
          else (phone.write [.create form.values]).showOverview platform) 1 := by
  obtain ⟨done, last, records⟩ := consistent.create room form
  have count : created (phone.calls ++ [.create form.values]) = created phone.calls + 1 := created_append _ _
  have whole : (BitVec.ofInt 32 (created phone.calls + 1 : Nat)).toInt = (created phone.calls + 1 : Nat) := by
    rw [BitVec.toInt_ofInt, Int.bmod_eq_of_le (by omega) (by omega)]
  obtain ⟨ready, sound⟩ := Form.record_sound platform form (created phone.calls + 1)
  have old {other : BitVec 32} (given : other.toInt ≤ created phone.calls) :
      (phone.write [.create form.values]).record platform other = phone.record platform other := by
    rw [records, if_neg (by omega)]
  have created' : Consistent platform (phone.write [.create form.values]) := by
    refine ⟨count.trans_lt room, ?_, fun other record' held => ?_, fun other fetched => ?_,
      consistent.uploaded⟩
    · exact List.forall_mem_append.mpr ⟨consistent.plain, by simp [DatabaseCall.setsKey]⟩
    · rw [records] at held
      split at held
      · obtain rfl := Option.some.inj held
        exact sound
      · exact consistent.sound other record' held
    · obtain ⟨bound, finished⟩ := consistent.fetched other fetched
      refine ⟨?_, fun record' held => finished record' ((old bound).symm.trans held)⟩
      have more : created (phone.write [.create form.values]).calls = created phone.calls + 1 := count
      omega
  have steps {last : Phone} (same : last.calls = phone.calls ++ [.create form.values])
      (inv : Inv platform prompt last) : Steps platform prompt phone last 1 := by
    have record_eq (other : BitVec 32) :
        last.record platform other = (phone.write [.create form.values]).record platform other := by
      rw [record, store, same]
      rfl
    refine ⟨inv, by rw [same, count]; omega, by rw [same, count], fun other given absent => ?_,
      fun _ other old' new held finished held' => ?_⟩
    · rw [record_eq, old given, absent]
    · rw [record_eq, old (consistent.bounded held)] at held'
      obtain rfl : old' = new := Option.some.inj (held.symm.trans held')
      exact ⟨finished, fun _ _ => .inl rfl⟩
  rw [done, last]
  dsimp only
  split
  · have on : OnScreen platform prompt (phone.write [.create form.values])
        (.prepareSender ⟨BitVec.ofInt 32 (created phone.calls + 1 : Nat), false, false, false⟩) := by
      refine ⟨_, (records _).trans (if_pos ?_), ready, by simp⟩
      exact_mod_cast whole
    have displayed : Steps platform prompt _ _ 0 := .display created' on 0
    exact steps rfl displayed.inv
  · have listed : Steps platform prompt _ _ 0 := .overview created' 0
    exact steps rfl listed.inv

/-- `PrepareSenderScreen`. -/
theorem Inv.prepareStep {screen : PrepareSenderScreen} (inv : Inv platform prompt phone)
    (front : phone.screen = .prepareSender screen) (marker : platform.readsDouble "-1" = true)
    (sensible : event.Sensible platform) (taken : phone.prepareStep platform event screen = some next)
    (count : Nat) : Steps platform prompt phone next count := by
  have on := inv.screen
  rw [front] at on
  obtain ⟨entry, found, ready, prepared⟩ := on
  have vacuous (columns : List Nat) : prompt → ∀ other,
      phone.record platform screen.experimentNumber = some other → other.IsFinished →
        ∀ column ∈ columns, column ∈ computedColumns ∨
          column ∈ positionColumns ∧ other.get column = some "-1" := by
    intro _ other held ended
    obtain rfl : entry = other := Option.some.inj (found.symm.trans held)
    exact absurd ended ready.not_finished
  cases event with
  | connection connected =>
    obtain rfl := Option.some.inj taken
    have on : OnScreen platform prompt phone
        (.prepareSender { screen with connected := connected, ready := connected }) :=
      ⟨entry, found, ready, prepared⟩
    exact .display inv.toConsistent on count
  | prepareSender currentLocation =>
    have fills := senderPosition_fills sensible
    have evolves : Evolves platform prompt phone _ := .fills fills (by decide) (vacuous _)
    obtain ⟨new, stored, filled⟩ : ∃ new, _ = some new ∧ ∀ column ∈ [20, 21, 22], new.Holds platform column :=
      ⟨_, (record_fills fills (by decide) found).1, (record_fills fills (by decide) found).2.1⟩
    simp only [Phone.prepareStep] at taken
    split at taken
    · cases taken
    · split at taken
      · obtain rfl := Option.some.inj taken
        have edits := evolves.record found stored
        refine .write inv.toConsistent evolves ?_ count
        refine ⟨new, stored, edits.ready ready, fun _ column low high => ?_⟩
        exact filled column (by simp only [List.mem_cons, List.not_mem_nil, or_false]; omega)
      · obtain rfl := Option.some.inj taken
        exact .same inv count
  | cancelPreparation =>
    simp only [Phone.prepareStep] at taken
    split at taken
    · obtain rfl := Option.some.inj taken
      split
      · have on : OnScreen platform prompt phone (.prepareSender { screen with isPrepared := false }) :=
          ⟨entry, found, ready, by simp⟩
        exact .display inv.toConsistent on count
      · exact .same inv count
    · cases taken
  | toStartExperiment orientation =>
    obtain rfl := Option.some.inj taken
    have mark : platform.Reads none := ⟨marker, marker, marker⟩
    obtain ⟨columns, fills, behind, sender⟩ : ∃ columns, Fills platform
        ((if screen.isPrepared then [] else senderPosition none) ++
            [("sender_orientation", orientation)]) columns ∧
        (∀ column ∈ columns, 19 ≤ column) ∧
        (screen.isPrepared = false → ∀ column, 20 ≤ column → column ≤ 22 → column ∈ columns) := by
      have turned := (orientation_fills platform orientation).1
      cases screen.isPrepared with
      | true => exact ⟨[32], turned, by decide, by simp⟩
      | false =>
        refine ⟨[20, 21, 22, 32], (senderPosition_fills mark).append turned, by decide, ?_⟩
        intro _ column low high
        simp only [List.mem_cons, List.not_mem_nil, or_false]
        omega
    have evolves : Evolves platform prompt phone _ := .fills fills behind (vacuous columns)
    have positive (column : Nat) (member : column ∈ columns) : 0 < column :=
      lt_of_lt_of_le (by decide) (behind column member)
    obtain ⟨new, stored, filled⟩ : ∃ new, _ = some new ∧ ∀ column ∈ columns, new.Holds platform column :=
      ⟨_, (record_fills fills positive found).1, (record_fills fills positive found).2.1⟩
    have edits := evolves.record found stored
    have consistent := inv.toConsistent.evolves evolves (fun _ member => member) rfl
    obtain ⟨opens, kept⟩ : Evolves platform prompt _ _ ∧ Inv platform prompt _ :=
      consistent.onCreate stored fun column low high => by
        cases isPrepared : screen.isPrepared with
        | true => exact edits.holds column (prepared isPrepared column low high)
        | false => exact filled column (sender isPrepared column low high)
    exact .of_evolves (evolves.trans opens) kept count
  | left =>
    obtain rfl := Option.some.inj taken
    exact .overview inv.toConsistent count
  | general | received =>
    obtain rfl := Option.some.inj taken
    exact .same inv count
  | _ => cases taken

theorem Inv.broadcastStep {screen : StartExperimentScreen} (inv : Inv platform prompt phone)
    (front : phone.screen = .startExperiment screen) (promptly : prompt → event.Prompt platform phone)
    (count : Nat) : Steps platform prompt phone (phone.broadcastStep event screen) count := by
  have on := inv.screen
  rw [front] at on
  obtain ⟨entry, found, shows, button⟩ := on
  have displayed (inner : ExperimentScreen String) (running : inner.timer = screen.screen.timer) :
      Steps platform prompt phone
        (phone.display (.startExperiment { screen with screen := inner })) count := by
    refine .display inv.toConsistent ?_ count
    refine ⟨entry, found, ⟨shows.loaded, shows.summarised, shows.sender, shows.located, ?_, ?_,
      shows.finished, ?_, shows.dialog⟩, button⟩
    · exact fun counting => shows.measuring (running.symm.trans counting)
    · exact fun visible => ⟨(shows.card visible).1, fun counting =>
        (shows.card visible).2 (running.symm.trans counting)⟩
    · exact fun promptly counting => shows.timely promptly (running ▸ counting)
  cases event with
  | connection connected => exact displayed _ rfl
  | general status =>
    simp only [Phone.broadcastStep]
    split_ifs with synchronised acknowledged
    · exact displayed _ rfl
    · subst acknowledged
      refine .display inv.toConsistent ?_ count
      refine ⟨entry, found, ⟨shows.loaded, shows.summarised, shows.sender, shows.located, by simp,
        fun visible => ⟨(shows.card visible).1, by simp⟩, shows.finished, fun promptly' _ => ?_,
        shows.dialog⟩, button⟩
      exact (inv.sound _ entry found).state.resolve_right (promptly promptly' rfl screen front entry found)
    · exact .same inv count
  | received fields =>
    cases fields with
    | none => exact .crash inv.toConsistent rfl count
    | some fields =>
      have evolves : Evolves platform prompt phone _ := .rows phone screen.experimentNumber
        (ResultLog.receive ⟨screen.screen.dbEntries, []⟩ fields).rows
      refine .write inv.toConsistent evolves ?_ count
      refine ⟨entry, ?_, ⟨shows.loaded, shows.summarised, shows.sender, shows.located, shows.measuring,
        shows.card,
        shows.finished, shows.timely, shows.dialog⟩, fun visible => (button visible).evolves evolves⟩
      rw [record, ExperimentStore.getExperimentInfo, find_rows]
      exact found
  | _ => exact .same inv count

theorem Inv.buttonStep {screen : StartExperimentScreen} (inv : Inv platform prompt phone)
    (front : phone.screen = .startExperiment screen) (sensible : event.Sensible platform)
    (taken : phone.buttonStep platform event screen = some next) (count : Nat) :
    Steps platform prompt phone next count := by
  have on := inv.screen
  rw [front] at on
  obtain ⟨entry, found, shows, button⟩ := on
  cases event with
  | start power hours minutes seconds =>
    simp only [Phone.buttonStep] at taken
    split at taken
    · obtain rfl := Option.some.inj taken
      split
      · exact .crash inv.toConsistent rfl count
      · refine .display inv.toConsistent ?_ count
        exact ⟨entry, found, ⟨shows.loaded, shows.summarised, shows.sender, shows.located, shows.measuring,
          shows.card, shows.finished, shows.timely, shows.dialog⟩, button⟩
    · cases taken
  | logLocation currentLocation orientation =>
    simp only [Phone.buttonStep] at taken
    split at taken
    · rename_i visible
      obtain rfl := Option.some.inj taken
      have ready := (shows.card visible).1
      have fills : Fills platform _ ([23, 24, 25] ++ [33]) :=
        (receiverPosition_fills sensible).append (orientation_fills platform orientation).2
      have evolves : Evolves platform prompt phone _ := .fills fills (by decide) fun _ other held ended => by
        obtain rfl : entry = other := Option.some.inj (found.symm.trans held)
        exact absurd ended ready.not_finished
      obtain ⟨new, stored, filled⟩ : ∃ new, _ = some new ∧
          ∀ column ∈ [23, 24, 25] ++ [33], new.Holds platform column :=
        ⟨_, (record_fills fills (by decide) found).1, (record_fills fills (by decide) found).2.1⟩
      have edits := evolves.record found stored
      refine .write inv.toConsistent evolves ?_ count
      refine ⟨new, stored, ?_, fun visible => (button visible).evolves evolves⟩
      refine ⟨fun column early other =>
          (shows.loaded column early other).trans (edits.stored column early).symm,
        edits.summarised shows.summarised, fun column low high =>
          edits.holds column (shows.sender column low high),
        fun _ column low high => filled column ?_, fun counting => absurd counting (shows.card visible).2,
        fun _ => ⟨edits.ready ready, (shows.card visible).2⟩,
        fun ended => absurd (shows.finished ended) ready.not_finished, fun _ _ => edits.ready ready,
        fun column asked => absurd (shows.dialog column asked).1 ready.not_finished⟩
      simp only [List.cons_append, List.nil_append, List.mem_cons, List.not_mem_nil, or_false]
      omega
    · cases taken
  | createCsv opens =>
    simp only [Phone.buttonStep] at taken
    split at taken
    · rename_i visible
      obtain rfl := Option.some.inj taken
      have finished := shows.finished (.inl visible)
      have csv := inv.toConsistent.csvResult found opens
      have path : PathFrom entry
          (App.createCsv (phone.csvResult platform opens screen.experimentNumber) entry).path := by
        have complete := completeLocationValues_path (inv.sound _ entry found) finished
          (show 20 ≤ Column.senderLatitude by decide)
        unfold App.createCsv
        cases result : phone.csvResult platform opens screen.experimentNumber with
        | made => exact complete
        | ioException => exact complete
        | otherException => exact absurd result csv
      rw [withRecord_eq found]
      obtain ⟨computes, kept⟩ := inv.toConsistent.follow_filed found shows button finished path
        (withFile_frame platform opens screen.experimentNumber phone) _
      exact .of_evolves computes.toEvolves kept count
    · cases taken
  | startNextExperiment =>
    simp only [Phone.buttonStep] at taken
    split at taken
    · rename_i visible
      obtain rfl := Option.some.inj taken
      obtain ⟨evolves, kept⟩ := inv.startNextExperiment front visible
      exact .of_evolves evolves kept count
    · cases taken
  | left =>
    obtain rfl := Option.some.inj taken
    rw [withRecord_eq found]
    rcases (inv.sound _ entry found).state with ready | finished
    · rw [withState_ready ready]
      exact .overview inv.toConsistent count
    · rw [withState_finished finished]
      exact .overview inv.toConsistent count
  | _ => cases taken

theorem Inv.dialogStep {screen : StartExperimentScreen} {column : Nat} (inv : Inv platform prompt phone)
    (front : phone.screen = .startExperiment screen) (asked : screen.dialog = some column)
    (sensible : event.Sensible platform)
    (taken : phone.dialogStep platform event column screen = some next) (count : Nat) :
    Steps platform prompt phone next count := by
  have on := inv.screen
  rw [front] at on
  obtain ⟨entry, found, shows, button⟩ := on
  obtain ⟨finished, position, marker⟩ := shows.dialog column asked
  have closed {record' : Entry} (edits : entry.Evolves platform prompt record')
      (still : record'.Sound platform) : StartExperimentScreen.Shows platform prompt
        { screen with dialog := none } record' := by
    have ended := edits.finished finished
    refine ⟨fun column early other =>
        (shows.loaded column early other).trans (edits.stored column early).symm,
      edits.summarised shows.summarised, fun column low high => still.complete ended column (by omega),
      fun _ column low high => still.complete ended column high,
      fun _ => ⟨still.complete ended _ (by decide), fun column low high => still.complete ended column high⟩,
      fun visible => absurd finished (shows.card visible).1.not_finished, fun _ => ended,
      fun promptly counting => absurd finished (shows.timely promptly counting).not_finished, by simp⟩
  cases event with
  | confirm loc =>
    obtain ⟨locationIdentifier, listed, fills⟩ :=
      location_fills (show platform.readsDouble loc = true from sensible) position
    obtain ⟨same, listed', rfl⟩ := Option.map_eq_some_iff.mp taken
    obtain rfl : locationIdentifier = same := Option.some.inj (listed.symm.trans listed')
    have low : 20 ≤ column := (List.mem_range'_1.mp position).1
    have evolves : Evolves platform prompt phone _ :=
      .fills fills (by simpa using by omega) fun promptly other held _ => by
        obtain rfl : entry = other := Option.some.inj (found.symm.trans held)
        simpa using .inr ⟨position, marker promptly⟩
    obtain ⟨new, stored⟩ : ∃ new, _ = some new := ⟨_, (record_fills fills (by simpa using by omega) found).1⟩
    have edits := evolves.record found stored
    have consistent := inv.toConsistent.evolves evolves (fun _ member => member) rfl
    have sound := consistent.sound _ new stored
    have path : PathFrom new (completeLocationValues (column + 1) new) :=
      completeLocationValues_path sound (edits.finished finished) (by omega)
    dsimp only
    rw [withRecord_eq stored]
    have follows := consistent.follow ?_ (closed edits sound)
      (fun visible => (button visible).evolves evolves)
      (edits.finished finished) path .nullColumn
    · exact .of_evolves (evolves.trans follows.1.toEvolves) follows.2 count
    · exact stored
  | dismiss =>
    obtain rfl := Option.some.inj taken
    refine .display inv.toConsistent ?_ count
    exact ⟨entry, found, closed (.refl entry) (inv.sound _ entry found), button⟩
  | _ => cases taken

theorem Steps.finish {screen : StartExperimentScreen} (inv : Inv platform prompt phone)
    (front : phone.screen = .startExperiment screen) (running : screen.screen.timer = some .duration)
    (online opens : Bool) (count : Nat) :
    Steps platform prompt phone (phone.finishExperiment platform online opens screen) count := by
  obtain ⟨kept, middle, entry, done, same, current, finishes, computes⟩ :=
    inv.finishExperiment front running online opens
  have total := computes.created.trans same
  refine ⟨kept, total.ge, total.le.trans (Nat.le_add_right _ _), fun other _ absent => ?_,
    fun promptly other old new found finished found' => ?_⟩
  · refine computes.absent other ?_
    by_cases own : other = screen.experimentNumber
    · have on := inv.screen
      rw [front] at on
      obtain ⟨entry, held, -⟩ := on
      rw [own, held] at absent
      cases absent
    · rw [finishes.others other own, absent]
  · obtain ⟨held, ready⟩ := current promptly
    have own : other ≠ screen.experimentNumber := by
      rintro rfl
      obtain rfl : entry = old := Option.some.inj (held.symm.trans found)
      exact ready.not_finished finished
    have edits := computes.toEvolves.record ((finishes.others other own).trans found) found'
    exact ⟨edits.finished finished, edits.kept promptly finished⟩

theorem Inv.userStep {screen : StartExperimentScreen} (inv : Inv platform prompt phone)
    (front : phone.screen = .startExperiment screen) (sensible : event.Sensible platform)
    (taken : phone.userStep platform event screen = some next) (count : Nat) :
    Steps platform prompt phone next count := by
  unfold Phone.userStep at taken
  cases asked : screen.dialog with
  | none =>
    rw [asked] at taken
    exact inv.buttonStep front sensible taken count
  | some column =>
    rw [asked] at taken
    exact inv.dialogStep front asked sensible taken count

theorem Inv.experimentStep {screen : StartExperimentScreen} (inv : Inv platform prompt phone)
    (front : phone.screen = .startExperiment screen) (sensible : event.Sensible platform)
    (promptly : prompt → event.Prompt platform phone)
    (taken : phone.experimentStep platform event screen = some next) (count : Nat) :
    Steps platform prompt phone next count := by
  have heard (taken : some
      (if screen.screen.justShowingInfo then phone else phone.broadcastStep event screen) =
      some next) : Steps platform prompt phone next count := by
    obtain rfl := Option.some.inj taken
    split
    · exact .same inv count
    · exact inv.broadcastStep front promptly count
  cases event with
  | connection | general | received => exact heard taken
  | countedDown now currentLocation online opens =>
    obtain ⟨countdown, running, rfl⟩ := Option.map_eq_some_iff.mp taken
    cases countdown with
    | delay =>
      obtain ⟨evolves, kept⟩ := inv.startMeasurement front running sensible.1 sensible.2
      exact .of_evolves evolves kept count
    | duration => exact .finish inv front running online opens count
  | recreated =>
    obtain rfl := Option.some.inj taken
    have on := inv.screen
    rw [front] at on
    obtain ⟨entry, found, shows, -⟩ := on
    obtain ⟨evolves, kept⟩ : Evolves platform prompt _ _ ∧ Inv platform prompt _ :=
      inv.toConsistent.onCreate found shows.sender
    exact .of_evolves evolves kept count
  | _ => exact inv.userStep front sensible taken count

theorem Steps.upload {middle : Phone} (evolves : Evolves platform prompt phone middle)
    (inv : Inv platform prompt middle) {upload : Upload} (finished : upload.information.IsFinished)
    (holds : ∀ column ≤ 31, upload.information.Holds platform column) (count : Nat) :
    Steps platform prompt phone { middle with uploads := middle.uploads ++ [upload] } count := by
  have sent : Computes platform prompt middle { middle with uploads := middle.uploads ++ [upload] } :=
    .of_calls rfl
  refine .of_evolves (evolves.trans sent.toEvolves) ⟨⟨inv.few, inv.plain, inv.sound, inv.fetched, ?_⟩,
    inv.screen.computes sent⟩ count
  intro other member
  rcases List.mem_append.mp member with earlier | new
  · exact inv.uploaded other earlier
  · obtain rfl : other = upload := by simpa using new
    exact ⟨finished, holds⟩

theorem Inv.weatherStep (inv : Inv platform prompt phone)
    (taken : phone.weatherStep platform number values opens = some next) (count : Nat) :
    Steps platform prompt phone next count := by
  have erased (other : BitVec 32) (member : other ∈ phone.fetching.erase number) : other ∈ phone.fetching :=
    List.mem_of_mem_erase member
  have started : Computes platform prompt phone { phone with fetching := phone.fetching.erase number } :=
    .of_calls rfl
  unfold Phone.weatherStep at taken
  split at taken
  · rename_i fetching
    obtain ⟨-, fetched⟩ := inv.fetched number fetching
    cases values with
    | none =>
      obtain rfl := Option.some.inj taken
      exact .of_evolves started.toEvolves
        ⟨inv.toConsistent.evolves started.toEvolves erased rfl, inv.screen.computes started⟩ count
    | some values =>
      have fills := weather_fills platform values
      have computed : ∀ column ∈ [28, 29, 30, 31].take values.length, column ∈ computedColumns := by
        intro column member
        have all : ∀ column ∈ [28, 29, 30, 31], column ∈ computedColumns := by decide
        exact all column (List.mem_of_mem_take member)
      have computes := started.trans (.fills _ number fills computed)
      have consistent := inv.toConsistent.evolves computes.toEvolves erased rfl
      have on := inv.screen.computes computes
      dsimp only at taken
      split at taken
      · obtain rfl := Option.some.inj taken
        exact .of_evolves computes.toEvolves ⟨consistent, on⟩ count
      · rename_i whole
        split at taken
        · obtain rfl := Option.some.inj taken
          exact .after (.crash consistent rfl) computes.toEvolves rfl count
        · rename_i new stored
          split at taken
          · obtain rfl := Option.some.inj taken
            obtain ⟨old, found⟩ : ∃ old, phone.record platform number = some old := by
              refine Option.ne_none_iff_exists'.mp fun absent => ?_
              rw [computes.absent number absent] at stored
              cases stored
            obtain ⟨finished, holds⟩ := fetched old found
            have edits := computes.toEvolves.record found stored
            have all : [28, 29, 30, 31].take values.length = [28, 29, 30, 31] :=
              List.take_of_length_le (Nat.not_lt.mp whole)
            rw [all] at fills
            have found' :
                ({ phone with fetching := phone.fetching.erase number } : Phone).record platform number =
              some old := found
            obtain ⟨stored', filled, -⟩ := record_fills fills (by decide) found'
            obtain rfl : new = _ := Option.some.inj (stored.symm.trans stored')
            refine .upload computes.toEvolves ⟨consistent, on⟩ (edits.finished finished)
              (fun column early => ?_) count
            by_cases weather : 28 ≤ column
            · exact filled column (by simp only [List.mem_cons, List.not_mem_nil, or_false]; omega)
            · exact edits.holds column (holds column (by omega))
          · obtain rfl := Option.some.inj taken
            exact .of_evolves computes.toEvolves ⟨consistent, on⟩ count
  · cases taken

theorem Inv.overviewStep {absoluteIds : List (BitVec 32)} (inv : Inv platform prompt phone)
    (front : phone.screen = .overview absoluteIds)
    (taken : phone.overviewStep platform event absoluteIds = some next) (count : Nat) :
    Steps platform prompt phone next count := by
  have listed : absoluteIds = (phone.store platform).getPrimaryColumn := by
    have on := inv.screen
    rwa [front] at on
  cases event with
  | newExperiment =>
    obtain rfl := Option.some.inj taken
    have on : OnScreen platform prompt phone .customize := trivial
    exact .display inv.toConsistent on count
  | select position =>
    obtain ⟨id, held, rfl⟩ := Option.map_eq_some_iff.mp taken
    exact .select inv.toConsistent (listed ▸ List.mem_of_getElem? held) count
  | delete position =>
    obtain ⟨id, held, rfl⟩ := Option.map_eq_some_iff.mp taken
    exact .delete inv.toConsistent (listed ▸ List.mem_of_getElem? held) count
  | left =>
    obtain rfl := Option.some.inj taken
    have on : OnScreen platform prompt phone (.closed none) := by simp [OnScreen]
    exact .display inv.toConsistent on count
  | connection | general | received =>
    obtain rfl := Option.some.inj taken
    exact .same inv count
  | _ => cases taken

theorem Inv.customizeStep (inv : Inv platform prompt phone)
    (room : created phone.calls + event.creations < 2 ^ 31)
    (taken : phone.customizeStep platform event = some next) :
    Steps platform prompt phone next event.creations := by
  cases event with
  | experimentReady form startNow =>
    obtain rfl := Option.some.inj taken
    split
    · exact .crash inv.toConsistent rfl 1
    · exact .same inv 1
    · exact .create inv.toConsistent room form startNow
  | left =>
    obtain rfl := Option.some.inj taken
    exact .overview inv.toConsistent 0
  | connection | general | received =>
    obtain rfl := Option.some.inj taken
    exact .same inv 0
  | _ => cases taken

/-- Every step of the app keeps the screens and the records in agreement. -/
theorem Inv.step (inv : Inv platform prompt phone) (marker : platform.readsDouble "-1" = true)
    (sensible : event.Sensible platform) (promptly : prompt → event.Prompt platform phone)
    (room : created phone.calls + event.creations < 2 ^ 31)
    (taken : phone.step platform event = some next) : Steps platform prompt phone next event.creations := by
  unfold Phone.step at taken
  split at taken
  · exact inv.weatherStep taken _
  · obtain rfl := Option.some.inj taken
    have ended : Computes platform prompt phone { phone with screen := .closed none, fetching := [] } :=
      .of_calls rfl
    exact .of_evolves ended.toEvolves ⟨inv.toConsistent.of_calls rfl (by simp) rfl, by simp [OnScreen]⟩ _
  · split at taken
    · split at taken
      · obtain rfl := Option.some.inj taken
        exact .overview inv.toConsistent _
      · cases taken
    · rename_i front
      exact inv.overviewStep front taken _
    · exact inv.customizeStep room taken
    · rename_i front
      exact inv.prepareStep front marker sensible taken _
    · rename_i front
      exact inv.experimentStep front sensible promptly taken _

end Phone

end LoraEval.App
