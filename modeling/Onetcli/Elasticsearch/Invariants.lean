import Onetcli.Elasticsearch.Effects

/-!
The invariant of the provider: budgets, owners, and the results of its jobs. Names are drawn from
UUIDs, so a name that was given out before is never given out again; that is what keeps the blob
of one job apart from every other blob.
-/

namespace Onetcli.Elasticsearch

open Tables Runs

variable {Value : Type}

def Issued (name : Nat → String) (drawn : Nat) (id : String) : Prop := ∃ n < drawn, id = name n

theorem Issued.later {name : Nat → String} {drawn next : Nat} {id : String}
    (issued : Issued name drawn id) (later : drawn ≤ next) : Issued name next id := by
  obtain ⟨n, below, same⟩ := issued
  exact ⟨n, Nat.lt_of_lt_of_le below later, same⟩

theorem Issued.ne_next {name : Nat → String} (injective : Function.Injective name) {drawn : Nat}
    {id : String} (issued : Issued name drawn id) : id ≠ name drawn := by
  obtain ⟨n, below, rfl⟩ := issued
  intro same
  exact absurd (injective same) (Nat.ne_of_lt below)

section Names

variable {platform : Platform Value} (fresh : Function.Injective platform.newV4)
include fresh

theorem jobName_injective : Function.Injective (jobName platform) := fun _ _ same =>
  fresh ((String.append_right_inj _).mp same)

theorem blobName_injective : Function.Injective (blobName platform) := fun _ _ same =>
  fresh ((String.append_right_inj _).mp same)

end Names

def blobBytes (blobs : Table String ProviderBlob) : Nat :=
  weight (fun blob : ProviderBlob => blob.data.length) blobs

variable (platform : Platform Value)

/-- The blob holds the encoded result of what the search of the job has sent. -/
def Stored (books : Books Value) (id : String) (job : ProviderJob Value) (blobId : String) : Prop :=
  ∃ blob value, books.blobs.lookup blobId = some blob ∧ blob.resourceId = job.resourceId ∧
    books.delivered id = some value ∧
    platform.toVec (normalizeSearch platform value) = .ok blob.data

structure JobSound (books : Books Value) (id : String) (job : ProviderJob Value) : Prop where
  owned : job.resourceId ∈ books.resources
  issued : Issued (jobName platform) books.drawn id
  idle : job.completion ≠ none → job.state = .running
  empty : job.state = .running → job.result = none
  sent : ∀ value, job.completion = some (.sent (.ok value)) → books.delivered id = some value
  stored : ∀ blobId, job.result = some (.blob blobId) →
    Issued (blobName platform) books.drawn blobId ∧
      (blobId ∈ books.closedBlobs ∨ Stored platform books id job blobId)

def Refers (books : Books Value) (id blobId : String) : Prop :=
  ∃ job, books.jobs.lookup id = some job ∧ job.result = some (.blob blobId)

structure Sound (books : Books Value) : Prop where
  budget : blobBytes books.blobs ≤ maxTotalBlobBytes
  few : books.jobs.entries.length ≤ maxJobs
  jobs : ∀ id job, books.jobs.lookup id = some job → JobSound platform books id job
  blobs : ∀ id blob, books.blobs.lookup id = some blob →
    blob.resourceId ∈ books.resources ∧ Issued (blobName platform) books.drawn id
  gone : ∀ id ∈ books.closedBlobs,
    Issued (blobName platform) books.drawn id ∧ books.blobs.lookup id = none
  alone : ∀ first second blobId, Refers books first blobId → Refers books second blobId →
    first = second

theorem sound_new : Sound platform ({ state := {} } : Record Value).books where
  budget := Nat.zero_le _
  few := Nat.zero_le _
  jobs _ _ found := by cases found
  blobs _ _ found := by cases found
  gone _ among := by cases among
  alone _ _ _ refers := by
    obtain ⟨_, found, _⟩ := refers
    cases found

/-! ## Sweeping a resource -/

section Sweeps

theorem freeResult_sub (job : ProviderJob Value) (blobs : Table String ProviderBlob) (id : String)
    (blob : ProviderBlob) (found : (freeResult job blobs).lookup id = some blob) :
    blobs.lookup id = some blob := by
  unfold freeResult at found
  split at found
  · rw [lookup_erase_if] at found
    split at found
    · cases found
    · exact found
  · exact found

theorem freeResult_keeps {job : ProviderJob Value} {id : String}
    (other : job.result ≠ some (.blob id)) (blobs : Table String ProviderBlob) :
    (freeResult job blobs).lookup id = blobs.lookup id := by
  unfold freeResult
  split
  · rename_i blobId result
    rw [lookup_erase_if, if_neg]
    rintro rfl
    exact other result
  · rfl

theorem freeResult_frees {job : ProviderJob Value} {id : String}
    (result : job.result = some (.blob id)) (blobs : Table String ProviderBlob) :
    (freeResult job blobs).lookup id = none := by
  simp only [freeResult, result, AList.lookup_erase]

theorem freeResult_bytes (job : ProviderJob Value) (blobs : Table String ProviderBlob) :
    blobBytes (freeResult job blobs) ≤ blobBytes blobs := by
  unfold freeResult
  split
  · exact weight_erase_le _ _ _
  · exact Nat.le_refl _

variable (resourceId : String) (jobs : Table String (ProviderJob Value))
  (blobs : Table String ProviderBlob)

theorem sweptJobs_lookup (id : String) (job : ProviderJob Value) :
    (sweptJobs resourceId jobs blobs).1.lookup id = some job ↔
      jobs.lookup id = some job ∧ job.resourceId ≠ resourceId := by
  rw [sweptJobs, sweep_lookup_covered _ _ _ _ _ (List.Perm.refl _), Option.filter_eq_some_iff]
  simp

theorem sweptBlobs_lookup (id : String) (blob : ProviderBlob) :
    (sweptBlobs resourceId jobs blobs).lookup id = some blob ↔
      (sweptJobs resourceId jobs blobs).2.lookup id = some blob ∧ blob.resourceId ≠ resourceId := by
  rw [sweptBlobs, sweep_lookup_covered _ _ _ _ _ (List.Perm.refl _), Option.filter_eq_some_iff]
  simp

theorem sweptJobs_sub (id : String) (blob : ProviderBlob)
    (found : (sweptJobs resourceId jobs blobs).2.lookup id = some blob) :
    blobs.lookup id = some blob := by
  revert found
  apply sweep_acc (fun job => job.resourceId == resourceId) (fun _ job blobs => freeResult job blobs)
    (fun acc => acc.lookup id = some blob → blobs.lookup id = some blob)
  · exact fun _ job acc _ _ sub found => sub (freeResult_sub job acc id blob found)
  · exact fun found => found

theorem sweptJobs_keeps (id : String)
    (others : ∀ key job, jobs.lookup key = some job → job.resourceId = resourceId →
      job.result ≠ some (.blob id)) :
    (sweptJobs resourceId jobs blobs).2.lookup id = blobs.lookup id := by
  apply sweep_acc (fun job => job.resourceId == resourceId) (fun _ job blobs => freeResult job blobs)
    (fun acc => acc.lookup id = blobs.lookup id)
  · intro key job acc found doomed same
    rw [freeResult_keeps (others key job found (beq_iff_eq.mp doomed)), same]
  · rfl

theorem sweptBlobs_bytes : blobBytes (sweptBlobs resourceId jobs blobs) ≤ blobBytes blobs := by
  apply Nat.le_trans (weight_sweep_le _ _ _ _ _ _)
  apply sweep_acc (fun job => job.resourceId == resourceId) (fun _ job blobs => freeResult job blobs)
    (fun acc => blobBytes acc ≤ blobBytes blobs)
  · exact fun _ job acc _ _ less => Nat.le_trans (freeResult_bytes job acc) less
  · exact Nat.le_refl _

end Sweeps

/-! ## Every effect keeps the invariant -/

section Preserved

variable {platform} {books after : Books Value} {left : Option String}
  (sound : Sound platform books) (effect : Effect platform books after left)

include sound effect

theorem effect_budget : blobBytes after.blobs ≤ maxTotalBlobBytes := by
  have budget := sound.budget
  cases effect with
  | storeBlob resourceId data isOpen fits
  | succeed id job after value data found leaves sent encoded result fits =>
    exact Nat.le_trans (weight_insert_le _ _ _ _) (by rw [Nat.add_comm]; exact fits)
  | readBlob id blob offset found =>
    exact Nat.le_trans (weight_replace_le _ _ found (Nat.le_refl _)) budget
  | closeBlob id => exact Nat.le_trans (weight_erase_le _ _ _) budget
  | closeJob id job found => exact Nat.le_trans (freeResult_bytes job _) budget
  | closeResource id isOpen => exact Nat.le_trans (sweptBlobs_bytes id _ _) budget
  | clear => exact Nat.zero_le _
  | _ => exact budget

theorem effect_few : after.jobs.entries.length ≤ maxJobs := by
  have few := sound.few
  rw [length_eq_weight] at few ⊢
  cases effect with
  | startJob resourceId message isOpen room =>
    rw [length_eq_weight] at room
    exact Nat.le_trans (weight_insert_le _ _ _ _) (by omega)
  | receive id job value found | vanish id job completion found | leave id job after found
  | succeed id job after value data found =>
    exact Nat.le_trans (weight_replace_le _ _ found (Nat.le_refl _)) few
  | closeJob id job found => exact Nat.le_trans (weight_erase_le _ _ _) few
  | closeResource id isOpen => exact Nat.le_trans (weight_sweep_le _ _ _ _ _ _) few
  | clear => exact Nat.zero_le _
  | _ => exact few

omit sound in
theorem effect_drawn : books.drawn ≤ after.drawn := by
  cases effect with
  | keep drawn later => exact later
  | openResource id drawn later => exact later
  | storeBlob => exact Nat.le_succ _
  | startJob => exact Nat.le_succ _
  | succeed => exact Nat.le_succ _
  | _ => exact Nat.le_refl _

theorem effect_blobs (id : String) (blob : ProviderBlob)
    (found : after.blobs.lookup id = some blob) :
    blob.resourceId ∈ after.resources ∧ Issued (blobName platform) after.drawn id := by
  have later := effect_drawn effect
  have before (found : books.blobs.lookup id = some blob) :
      blob.resourceId ∈ books.resources ∧ Issued (blobName platform) after.drawn id :=
    ⟨(sound.blobs id blob found).1, (sound.blobs id blob found).2.later later⟩
  cases effect with
  | openResource =>
    obtain ⟨owned, issued⟩ := before found
    exact ⟨(AList.mem_insert _).mpr (Or.inr owned), issued⟩
  | storeBlob resourceId data isOpen fits =>
    rcases lookup_insert_cases found with ⟨same, rfl⟩ | ⟨_, found⟩
    · exact ⟨isOpen, books.drawn, Nat.lt_succ_self _, same⟩
    · exact before found
  | readBlob blobId old offset there =>
    rcases lookup_insert_cases found with ⟨rfl, rfl⟩ | ⟨_, found⟩
    · exact sound.blobs id old there
    · exact before found
  | closeBlob blobId => exact before (lookup_erase_cases found).2
  | succeed jobId job after value data there =>
    rcases lookup_insert_cases found with ⟨same, rfl⟩ | ⟨_, found⟩
    · exact ⟨(sound.jobs jobId job there).owned, books.drawn, Nat.lt_succ_self _, same⟩
    · exact before found
  | closeJob jobId job there => exact before (freeResult_sub job _ _ _ found)
  | closeResource resourceId isOpen =>
    obtain ⟨present, other⟩ := (sweptBlobs_lookup resourceId _ _ id blob).mp found
    obtain ⟨owned, issued⟩ := before (sweptJobs_sub resourceId _ _ id blob present)
    exact ⟨AList.mem_erase.mpr ⟨other, owned⟩, issued⟩
  | clear => cases found
  | _ => exact before found

theorem effect_gone (fresh : Function.Injective platform.newV4) (id : String)
    (among : id ∈ after.closedBlobs) :
    Issued (blobName platform) after.drawn id ∧ after.blobs.lookup id = none := by
  have later := effect_drawn effect
  have before := sound.gone id
  have absent {blobs : Table String ProviderBlob} (among : id ∈ books.closedBlobs)
      (fewer : ∀ blob, blobs.lookup id = some blob → books.blobs.lookup id = some blob) :
      Issued (blobName platform) after.drawn id ∧ blobs.lookup id = none := by
    refine ⟨(before among).1.later later, Option.eq_none_iff_forall_ne_some.mpr fun blob found => ?_⟩
    cases (fewer blob found).symm.trans (before among).2
  cases effect with
  | storeBlob | succeed =>
    refine ⟨(before among).1.later later, ?_⟩
    rw [lookup_insert_if, if_neg ((before among).1.ne_next (blobName_injective fresh))]
    exact (before among).2
  | readBlob blobId old offset there =>
    refine absent among fun blob found => ?_
    rcases lookup_insert_cases found with ⟨rfl, rfl⟩ | ⟨_, found⟩
    · cases there.symm.trans (before among).2
    · exact found
  | closeBlob blobId =>
    simp only at among
    rw [lookup_erase_if]
    by_cases same : id = blobId
    · subst same
      rw [if_pos rfl]
      split at among
      · rename_i present
        obtain ⟨blob, there⟩ := lookup_of_mem present
        exact ⟨(sound.blobs id blob there).2, rfl⟩
      · exact ⟨(before among).1, rfl⟩
    · rw [if_neg same]
      split at among
      · exact before ((List.mem_cons.mp among).resolve_left same)
      · exact before among
  | closeJob jobId job => exact absent among (freeResult_sub job _ id)
  | closeResource resourceId =>
    refine absent among fun blob found => ?_
    obtain ⟨earlier, _⟩ := (sweptBlobs_lookup resourceId _ _ id blob).mp found
    exact sweptJobs_sub resourceId _ _ id blob earlier
  | clear => exact ⟨(before among).1, rfl⟩
  | _ => exact ⟨(before among).1.later later, (before among).2⟩

omit sound in
theorem effect_refers (id blobId : String) (refers : Refers after id blobId) :
    Refers books id blobId ∨ left = some id ∧ blobId = blobName platform books.drawn := by
  obtain ⟨job, found, result⟩ := refers
  cases effect with
  | startJob resourceId message isOpen room =>
    rw [lookup_insert_if] at found
    split at found
    · cases found
      cases result
    · exact Or.inl ⟨job, found, result⟩
  | receive jobId old value there waits | vanish jobId old completion there waits =>
    rcases lookup_insert_cases found with ⟨rfl, rfl⟩ | ⟨_, found⟩
    · exact Or.inl ⟨old, there, result⟩
    · exact Or.inl ⟨job, found, result⟩
  | leave jobId old new there leaves noBlob =>
    rcases lookup_insert_cases found with ⟨rfl, rfl⟩ | ⟨_, found⟩
    · exact Or.inl ⟨old, there, noBlob blobId result⟩
    · exact Or.inl ⟨job, found, result⟩
  | succeed jobId old new value data there leaves sent encoded named =>
    rcases lookup_insert_cases found with ⟨same, rfl⟩ | ⟨_, found⟩
    · rw [named] at result
      cases result
      exact Or.inr ⟨congrArg some same.symm, rfl⟩
    · exact Or.inl ⟨job, found, result⟩
  | closeJob jobId old there =>
    obtain ⟨_, found⟩ := lookup_erase_cases found
    exact Or.inl ⟨job, found, result⟩
  | closeResource resourceId isOpen =>
    exact Or.inl ⟨job, ((sweptJobs_lookup resourceId _ _ id job).mp found).1, result⟩
  | clear => cases found
  | _ => exact Or.inl ⟨job, found, result⟩

theorem effect_alone (fresh : Function.Injective platform.newV4) (first second blobId : String)
    (one : Refers after first blobId) (other : Refers after second blobId) : first = second := by
  have old : ∀ id, Refers books id blobId → blobId ≠ blobName platform books.drawn := by
    rintro id ⟨job, found, result⟩
    exact ((sound.jobs id job found).stored blobId result).1.ne_next (blobName_injective fresh)
  rcases effect_refers effect first blobId one with before | ⟨leaves, new⟩ <;>
    rcases effect_refers effect second blobId other with before' | ⟨leaves', new'⟩
  · exact sound.alone first second blobId before before'
  · exact absurd new' (old first before)
  · exact absurd new (old second before')
  · exact Option.some.inj (leaves.symm.trans leaves')

omit sound effect in
theorem JobSound.transfer {id : String} {job : ProviderJob Value}
    (before : JobSound platform books id job) (owned : job.resourceId ∈ after.resources)
    (later : books.drawn ≤ after.drawn) (same : after.delivered id = books.delivered id)
    (kept : ∀ blobId, job.result = some (.blob blobId) →
      blobId ∈ books.closedBlobs ∨ Stored platform books id job blobId →
        blobId ∈ after.closedBlobs ∨ Stored platform after id job blobId) :
    JobSound platform after id job where
  owned := owned
  issued := before.issued.later later
  idle := before.idle
  empty := before.empty
  sent value received := same.trans (before.sent value received)
  stored blobId result := by
    obtain ⟨issued, stored⟩ := before.stored blobId result
    exact ⟨issued.later later, kept blobId result stored⟩

omit sound effect in
theorem Stored.transfer {id blobId : String} {job : ProviderJob Value}
    (stored : Stored platform books id job blobId) (same : after.delivered id = books.delivered id)
    (kept : ∀ blob, books.blobs.lookup blobId = some blob → blob.resourceId = job.resourceId →
      ∃ offset, after.blobs.lookup blobId = some { blob with offset }) :
    Stored platform after id job blobId := by
  obtain ⟨blob, value, found, owner, delivered, encoded⟩ := stored
  obtain ⟨offset, there⟩ := kept blob found owner
  exact ⟨_, value, there, owner, same.trans delivered, encoded⟩

omit sound effect in
-- The job that an effect writes, as long as its result is no blob.
theorem JobSound.without_blob {id : String} {job : ProviderJob Value}
    (owned : job.resourceId ∈ after.resources) (issued : Issued (jobName platform) after.drawn id)
    (idle : job.completion ≠ none → job.state = .running)
    (empty : job.state = .running → job.result = none)
    (sent : ∀ value, job.completion = some (.sent (.ok value)) → after.delivered id = some value)
    (noBlob : ∀ blobId, job.result ≠ some (.blob blobId)) : JobSound platform after id job :=
  ⟨owned, issued, idle, empty, sent, fun blobId result => absurd result (noBlob blobId)⟩

omit effect in
theorem Sound.running_result {id : String} {job : ProviderJob Value}
    (found : books.jobs.lookup id = some job) (running : job.state = .running) (blobId : String) :
    job.result ≠ some (.blob blobId) := by
  rw [(sound.jobs id job found).empty running]
  exact (Option.some_ne_none _).symm

theorem effect_jobs (fresh : Function.Injective platform.newV4) (id : String)
    (job : ProviderJob Value) (found : after.jobs.lookup id = some job) :
    JobSound platform after id job := by
  have before := sound.jobs id
  cases effect with
  | keep drawn later =>
    exact (before job found).transfer (before job found).owned later rfl fun _ _ stored => stored
  | openResource resourceId drawn later =>
    exact (before job found).transfer ((AList.mem_insert _).mpr (Or.inr (before job found).owned))
      later rfl fun _ _ stored => stored
  | storeBlob resourceId data isOpen fits =>
    refine (before job found).transfer (before job found).owned (Nat.le_succ _) rfl
      fun blobId result => Or.imp_right fun stored => stored.transfer rfl fun blob there _ => ?_
    have issued := ((before job found).stored blobId result).1
    refine ⟨blob.offset, ?_⟩
    rw [lookup_insert_if, if_neg (issued.ne_next (blobName_injective fresh))]
    exact there
  | readBlob readId old offset read =>
    refine (before job found).transfer (before job found).owned (Nat.le_refl _) rfl
      fun blobId result => Or.imp_right fun stored => stored.transfer rfl fun blob there _ => ?_
    rw [lookup_insert_if]
    split
    · rename_i same
      subst same
      obtain rfl := Option.some.inj (there.symm.trans read)
      exact ⟨offset, rfl⟩
    · exact ⟨blob.offset, there⟩
  | closeBlob closedId =>
    refine (before job found).transfer (before job found).owned (Nat.le_refl _) rfl
      fun blobId result stored => ?_
    by_cases same : blobId = closedId
    · subst same
      left
      rcases stored with closed | ⟨blob, _, there, _⟩
      · dsimp only
        split
        · exact List.mem_cons_of_mem _ closed
        · exact closed
      · dsimp only
        rw [if_pos (mem_of_lookup there)]
        exact List.mem_cons_self
    · refine stored.imp (fun closed => ?_) fun stored => stored.transfer rfl fun blob there _ => ?_
      · dsimp only
        split
        · exact List.mem_cons_of_mem _ closed
        · exact closed
      · refine ⟨blob.offset, ?_⟩
        rw [lookup_erase_if, if_neg same]
        exact there
  | startJob resourceId message isOpen room =>
    rcases lookup_insert_cases found with ⟨same, rfl⟩ | ⟨_, found⟩
    · refine JobSound.without_blob isOpen ⟨books.drawn, Nat.lt_succ_self _, same⟩ (fun _ => rfl)
        (fun _ => rfl) (fun value sent => ?_) fun blobId result => ?_
      · cases sent
      · cases result
    · exact (before job found).transfer (before job found).owned (Nat.le_succ _) rfl
        fun _ _ stored => stored
  | receive jobId old value there waits =>
    rcases lookup_insert_cases found with ⟨rfl, rfl⟩ | ⟨different, found⟩
    · have running := (before old there).idle (by rw [waits]; exact Option.some_ne_none _)
      have none := sound.running_result there running
      refine JobSound.without_blob (before old there).owned (before old there).issued
        (fun _ => running) (before old there).empty (fun other sent => ?_) none
      cases sent
      exact Function.update_self _ _ _
    · have same : Function.update books.delivered jobId (some value) id = books.delivered id :=
        Function.update_of_ne different _ _
      exact (before job found).transfer (before job found).owned (Nat.le_refl _) same
        fun _ _ stored => stored.imp_right fun stored => stored.transfer same
          fun blob there _ => ⟨blob.offset, there⟩
  | vanish jobId old completion there waits noValue =>
    rcases lookup_insert_cases found with ⟨rfl, rfl⟩ | ⟨_, found⟩
    · have running := (before old there).idle (by rw [waits]; exact Option.some_ne_none _)
      have none := sound.running_result there running
      refine JobSound.without_blob (before old there).owned (before old there).issued
        (fun _ => running) (before old there).empty (fun value sent => ?_) none
      exact absurd (Option.some.inj sent) (noValue value)
    · exact (before job found).transfer (before job found).owned (Nat.le_refl _) rfl
        fun _ _ stored => stored
  | leave jobId old new there leaves noBlob =>
    rcases lookup_insert_cases found with ⟨rfl, rfl⟩ | ⟨_, found⟩
    · refine JobSound.without_blob (by rw [leaves.resource]; exact (before old there).owned)
        (before old there).issued (fun waits => absurd leaves.settled waits)
        (fun running => absurd running leaves.left) (fun value sent => ?_)
        fun blobId result => sound.running_result there leaves.running blobId (noBlob blobId result)
      rw [leaves.settled] at sent
      cases sent
    · exact (before job found).transfer (before job found).owned (Nat.le_refl _) rfl
        fun _ _ stored => stored
  | succeed jobId old new value data there leaves sent encoded named fits =>
    rcases lookup_insert_cases found with ⟨rfl, rfl⟩ | ⟨_, found⟩
    · refine ⟨by rw [leaves.resource]; exact (before old there).owned,
        (before old there).issued.later (Nat.le_succ _),
        fun waits => absurd leaves.settled waits, fun running => absurd running leaves.left,
        fun other sent => ?_, fun blobId result => ?_⟩
      · rw [leaves.settled] at sent
        cases sent
      · rw [named] at result
        cases result
        refine ⟨⟨books.drawn, Nat.lt_succ_self _, rfl⟩, Or.inr ⟨_, value, AList.lookup_insert _,
          leaves.resource.symm, (before old there).sent value sent, encoded⟩⟩
    · refine (before job found).transfer (before job found).owned (Nat.le_succ _) rfl
        fun blobId result => Or.imp_right fun stored => stored.transfer rfl fun blob present _ => ?_
      have issued := ((before job found).stored blobId result).1
      refine ⟨blob.offset, ?_⟩
      rw [lookup_insert_if, if_neg (issued.ne_next (blobName_injective fresh))]
      exact present
  | closeJob jobId old there =>
    obtain ⟨different, found⟩ := lookup_erase_cases found
    refine (before job found).transfer (before job found).owned (Nat.le_refl _) rfl
      fun blobId result => Or.imp_right fun stored => stored.transfer rfl fun blob present _ => ?_
    have other : old.result ≠ some (.blob blobId) := fun shared =>
      different (sound.alone id jobId blobId ⟨job, found, result⟩ ⟨old, there, shared⟩)
    refine ⟨blob.offset, ?_⟩
    rw [freeResult_keeps other]
    exact present
  | closeResource resourceId isOpen =>
    obtain ⟨there, spared⟩ := (sweptJobs_lookup resourceId _ _ id job).mp found
    refine (before job there).transfer (AList.mem_erase.mpr ⟨spared, (before job there).owned⟩)
      (Nat.le_refl _) rfl
      fun blobId result => Or.imp_right fun stored => stored.transfer rfl fun blob present owner => ?_
    refine ⟨blob.offset, (sweptBlobs_lookup resourceId _ _ blobId blob).mpr ⟨?_, ?_⟩⟩
    · rw [sweptJobs_keeps resourceId _ _ blobId fun key doomed foundKey owned shared => ?_]
      · exact present
      · have same := sound.alone key id blobId ⟨doomed, foundKey, shared⟩ ⟨job, there, result⟩
        subst same
        obtain rfl := Option.some.inj (foundKey.symm.trans there)
        exact spared owned
    · rw [owner]
      exact spared
  | clear => cases found

theorem effect_sound (fresh : Function.Injective platform.newV4) : Sound platform after where
  budget := effect_budget sound effect
  few := effect_few sound effect
  jobs := effect_jobs sound effect fresh
  blobs := effect_blobs sound effect
  gone := effect_gone sound effect fresh
  alone := effect_alone sound effect fresh

end Preserved

end Onetcli.Elasticsearch
