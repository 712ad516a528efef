import EasyViewer.TaskStates
import Mathlib.Data.List.Nodup

/-!
The queue of `exec` against the map of the tasks. `exec` puts back what it has worked on
and `resumeTask` puts in what it has woken, and neither looks whether the task is there
already or has been removed since.
-/

namespace EasyViewer

namespace TaskRegistry

def Registered (registry : TaskRegistry) (address : Nat) : Prop :=
  registry.tasks (registry.objects address).id = some address

theorem registered_of_tasks {registry : TaskRegistry} {id : String} {address : Nat}
    (found : registry.tasks id = some address) : registry.Registered address := by
  rw [Registered, registry.named id address found]
  exact found

theorem Registered.lt {registry : TaskRegistry} {address : Nat}
    (registered : registry.Registered address) : address < registry.size :=
  registry.bounded _ _ registered

def QueueAgrees (registry : TaskRegistry) : Prop :=
  registry.queued.Nodup ∧ ∀ address ∈ registry.queued, registry.Registered address

structure SameIndex (before after : TaskRegistry) : Prop where
  size : after.size = before.size
  tasks : after.tasks = before.tasks
  queued : after.queued = before.queued
  ids : ∀ address, (after.objects address).id = (before.objects address).id

theorem SameIndex.refl (registry : TaskRegistry) : SameIndex registry registry :=
  ⟨rfl, rfl, rfl, fun _ => rfl⟩

section

variable {before after : TaskRegistry} (same : SameIndex before after)

include same

theorem SameIndex.registered {address : Nat} :
    after.Registered address ↔ before.Registered address := by
  rw [Registered, Registered, same.tasks, same.ids]

theorem SameIndex.queueAgrees : after.QueueAgrees ↔ before.QueueAgrees := by
  simp only [QueueAgrees, same.queued, same.registered]

end

theorem put_sameIndex (registry : TaskRegistry) (address : Nat) (task : FileTask) (path : String)
    (file : Option (List UInt8)) :
    SameIndex registry ((registry.put address task).putFile path file) := by
  refine ⟨rfl, rfl, rfl, fun other => ?_⟩
  simp only [putFile, put]
  by_cases here : other = address
  · subst here
    rw [Function.update_self]
  · rw [Function.update_of_ne here]

theorem QueueAgrees.pop {registry : TaskRegistry} {address : Nat} {rest : List Nat}
    (agrees : registry.QueueAgrees) (queue : registry.queued = address :: rest) :
    QueueAgrees { registry with queued := rest } := by
  obtain ⟨nodup, registered⟩ := agrees
  rw [queue] at nodup registered
  exact ⟨(List.nodup_cons.mp nodup).2,
    fun other member => registered other (List.mem_cons_of_mem _ member)⟩

theorem QueueAgrees.push_iff {registry : TaskRegistry} {address : Nat}
    (agrees : registry.QueueAgrees) :
    (registry.push address).QueueAgrees ↔
      registry.Registered address ∧ address ∉ registry.queued := by
  obtain ⟨nodup, registered⟩ := agrees
  constructor
  · rintro ⟨nodupAfter, registeredAfter⟩
    refine ⟨registeredAfter address (List.mem_append_right _ (List.mem_singleton_self _)), ?_⟩
    intro queued
    have apart := (List.nodup_append.mp nodupAfter).2.2
    exact apart address queued address (List.mem_singleton_self _) rfl
  · rintro ⟨isRegistered, unqueued⟩
    refine ⟨?_, fun other member => ?_⟩
    · refine List.nodup_append.mpr ⟨nodup, List.nodup_singleton _, ?_⟩
      rintro first queued second single rfl
      exact unqueued (List.mem_singleton.mp single ▸ queued)
    · rcases List.mem_append.mp member with queued | single
      · exact registered other queued
      · rw [List.mem_singleton.mp single]
        exact isRegistered

theorem QueueAgrees.insert {registry : TaskRegistry} (agrees : registry.QueueAgrees)
    (object : TaskPrivate) : (registry.insert object).2.QueueAgrees := by
  obtain ⟨nodup, registered⟩ := agrees
  simp only [TaskRegistry.insert]
  split
  · exact ⟨nodup, registered⟩
  · rename_i free
    have older : ∀ address ∈ registry.queued, address < registry.size :=
      fun address queued => (registered address queued).lt
    refine ⟨?_, fun address member => ?_⟩
    · refine List.nodup_append.mpr ⟨nodup, List.nodup_singleton _, ?_⟩
      rintro first queued second single rfl
      exact Nat.lt_irrefl _ (List.mem_singleton.mp single ▸ older first queued)
    · rcases List.mem_append.mp member with queued | single
      · have isRegistered := registered address queued
        simp only [Registered, Function.update_of_ne (Nat.ne_of_lt (older address queued))]
        rw [Function.update_of_ne]
        · exact isRegistered
        · intro sameId
          rw [Registered, sameId] at isRegistered
          exact free (by rw [isRegistered, Option.isSome_some])
      · rw [List.mem_singleton.mp single]
        simp only [Registered, Function.update_self]

theorem QueueAgrees.removeTask {registry : TaskRegistry} (agrees : registry.QueueAgrees)
    (id : String) : (registry.removeTask id).QueueAgrees := by
  obtain ⟨nodup, registered⟩ := agrees
  refine ⟨nodup.sublist List.eraseP_sublist, fun address member => ?_⟩
  have queued : address ∈ registry.queued := List.mem_of_mem_eraseP member
  have isRegistered := registered address queued
  have otherId : (registry.objects address).id ≠ id := by
    intro sameId
    have matched : decide ((registry.objects address).id = id) = true := decide_eq_true sameId
    obtain ⟨first, front, back, _, firstId, split, erased⟩ :=
      @List.exists_of_eraseP _ (fun other => decide ((registry.objects other).id = id)) _ _
        queued matched
    have firstQueued : first ∈ registry.queued := by
      rw [split]
      exact List.mem_append_right _ (List.mem_cons_self ..)
    have sameObject : first = address := by
      have both := registered first firstQueued
      rw [Registered, of_decide_eq_true firstId] at both
      rw [Registered, sameId] at isRegistered
      exact Option.some.inj (both.symm.trans isRegistered)
    subst sameObject
    rw [split] at nodup
    change first ∈ registry.queued.eraseP _ at member
    rw [erased] at member
    have apart := (List.nodup_middle.mp nodup)
    exact (List.nodup_cons.mp apart).1 member
  simp only [Registered, TaskRegistry.removeTask, unregister]
  rw [Function.update_of_ne otherId]
  exact isRegistered

theorem QueueAgrees.unregister_iff {registry : TaskRegistry} (agrees : registry.QueueAgrees)
    (id : String) :
    (registry.unregister id).QueueAgrees ↔
      ∀ address, registry.tasks id = some address → address ∉ registry.queued := by
  obtain ⟨nodup, registered⟩ := agrees
  constructor
  · rintro ⟨_, registeredAfter⟩ address found queued
    have after := registeredAfter address queued
    simp only [Registered, unregister, registry.named id address found,
      Function.update_self] at after
    contradiction
  · intro unqueued
    refine ⟨nodup, fun address queued => ?_⟩
    have isRegistered := registered address queued
    have otherId : (registry.objects address).id ≠ id := by
      intro sameId
      rw [Registered, sameId] at isRegistered
      exact unqueued address isRegistered queued
    simp only [Registered, unregister]
    rw [Function.update_of_ne otherId]
    exact isRegistered

end TaskRegistry

/-- `removeTask` has left nothing of the tasks that it has returned for, and `exec` has
unregistered none but the task that it had in hand. -/
structure SchedulerAgrees (shared : SharedTasks) : Prop where
  queue : shared.registry.QueueAgrees
  late : shared.late = []
  evicted : shared.evicted = []

/-- What goes into the queue is registered and not in it yet, and `exec` erases its own task,
which is not queued again. -/
def QueuesOnce (shared : SharedTasks) : TaskAction → Prop
  | .resumed address | .requeue address =>
      shared.registry.Registered address ∧ address ∉ shared.registry.queued
  | .erase address =>
      ∀ other, shared.registry.tasks (shared.registry.objects address).id = some other →
        other = address ∧ address ∉ shared.registry.queued
  | _ => True

/-- When `removeTask` returns, no thread has the task in hand. -/
def ReturnsAlone (pool : TaskThreads) (thread : Nat) (rest : List TaskAction) :
    TaskAction → Prop
  | .returned address =>
      ∀ other, ∀ action ∈ Function.update pool.pending thread rest other,
        action.about ≠ some address
  | _ => True

def Orderly (pool : TaskThreads) : TaskEvent → Prop
  | .advance thread _ _ =>
      match pool.pending thread with
      | [] => True
      | action :: rest => QueuesOnce pool.shared action ∧ ReturnsAlone pool thread rest action
  | _ => True

/-- An action in hand is about an object that is there and not gone; when `removeTask` comes to
return, its task is registered no more. -/
def InHand (shared : SharedTasks) (action : TaskAction) : Prop :=
  ∀ address, action.about = some address →
    address < shared.registry.size ∧ address ∉ shared.gone ∧
      (action = .returned address → ¬ shared.registry.Registered address)

structure Tidy (shared : SharedTasks) : Prop where
  agrees : SchedulerAgrees shared
  gone : ∀ address ∈ shared.gone,
    address < shared.registry.size ∧ ¬ shared.registry.Registered address

theorem Tidy.registered {shared : SharedTasks} (tidy : Tidy shared) {address : Nat}
    (registered : shared.registry.Registered address) : address ∉ shared.gone :=
  fun isGone => (tidy.gone address isGone).2 registered

theorem InHand.of_registered {shared : SharedTasks} (tidy : Tidy shared) {address : Nat}
    (registered : shared.registry.Registered address) {action : TaskAction}
    (about : action.about = some address) (notReturned : action ≠ .returned address) :
    InHand shared action := by
  intro other isAbout
  cases about.symm.trans isAbout
  exact ⟨registered.lt, tidy.registered registered, fun returned => absurd returned notReturned⟩

theorem InHand.mono {before after : SharedTasks} {action : TaskAction}
    (inHand : InHand before action) (size : before.registry.size ≤ after.registry.size)
    (gone : ∀ address, action.about = some address → address ∈ after.gone → address ∈ before.gone)
    (registered : ∀ address < before.registry.size, after.registry.Registered address →
      before.registry.Registered address) : InHand after action := by
  intro address about
  obtain ⟨bound, notGone, unregistered⟩ := inHand address about
  refine ⟨Nat.lt_of_lt_of_le bound size, fun isGone => notGone (gone address about isGone), ?_⟩
  exact fun returned again => unregistered returned (registered address bound again)

theorem begin_sameIndex (registry : TaskRegistry) (io : FileIo) (operation : TaskOperation) :
    TaskRegistry.SameIndex registry (operation.begin registry io).1 := by
  cases operation with
  | addTaskPassively id serverHost serverPort partnerId mode directory fileName progress fileSize
      overrideFile =>
      simp only [TaskOperation.begin]
      split
      · exact ⟨rfl, rfl, rfl, fun _ => rfl⟩
      · exact ⟨rfl, rfl, rfl, fun _ => rfl⟩
  | addTaskActively object action progress overrideFile => exact .refl _
  | loadTask object action progress state => exact .refl _
  | removeTask id => exact .refl _
  | call id inside => exact .refl _

theorem begin_about (registry : TaskRegistry) (io : FileIo) (operation : TaskOperation) :
    ∀ action ∈ (operation.begin registry io).2, action.about = none := by
  cases operation with
  | addTaskPassively id serverHost serverPort partnerId mode directory fileName progress fileSize
      overrideFile =>
      simp only [TaskOperation.begin]
      split <;> simp [TaskAction.about]
  | addTaskActively object action progress overrideFile =>
      simp [TaskOperation.begin, TaskAction.about]
  | loadTask object action progress state => simp [TaskOperation.begin, TaskAction.about]
  | removeTask id => simp [TaskOperation.begin, TaskAction.about]
  | call id inside => simp [TaskOperation.begin, TaskAction.about]

structure Undisturbed (before after : SharedTasks) : Prop where
  index : TaskRegistry.SameIndex before.registry after.registry
  gone : after.gone = before.gone
  late : after.late = before.late
  evicted : after.evicted = before.evicted

theorem Undisturbed.tidy {before after : SharedTasks} (undisturbed : Undisturbed before after)
    (tidy : Tidy before) : Tidy after := by
  obtain ⟨index, gone, late, evicted⟩ := undisturbed
  refine ⟨⟨index.queueAgrees.mpr tidy.agrees.queue, late.trans tidy.agrees.late,
    evicted.trans tidy.agrees.evicted⟩, fun address isGone => ?_⟩
  rw [index.size, index.registered]
  exact tidy.gone address (gone ▸ isGone)

theorem Undisturbed.inHand {before after : SharedTasks} (undisturbed : Undisturbed before after)
    {action : TaskAction} (inHand : InHand before action) : InHand after action :=
  inHand.mono (Nat.le_of_eq undisturbed.index.size.symm)
    (fun _ _ isGone => undisturbed.gone ▸ isGone)
    fun _ _ registered => undisturbed.index.registered.mp registered

theorem Undisturbed.stays {before after : SharedTasks} (undisturbed : Undisturbed before after)
    {action follows : TaskAction} {address : Nat} (inHand : InHand before action)
    (about : action.about = some address) (stays : Stays address follows) :
    InHand after follows := by
  intro other isAbout
  cases stays.1.symm.trans isAbout
  obtain ⟨bound, notGone, _⟩ := inHand address about
  refine ⟨undisturbed.index.size ▸ bound, undisturbed.gone ▸ notGone, fun returned => ?_⟩
  exact absurd returned (stays.2 address)

theorem notifies_undisturbed {shared : SharedTasks} {address : Nat}
    (notGone : address ∉ shared.gone) : Undisturbed shared (shared.notifies address) :=
  ⟨.refl _, rfl, if_neg notGone, rfl⟩

theorem leave_undisturbed (shared : SharedTasks) (address : Nat) (task : FileTask)
    (file : Option (List UInt8)) : Undisturbed shared (shared.leave address task file) :=
  ⟨TaskRegistry.put_sameIndex _ _ _ _ _, rfl, rfl, rfl⟩

structure KeepsTidy (before : SharedTasks) (result : SharedTasks × List TaskAction) : Prop where
  tidy : Tidy result.1
  follows : ∀ action ∈ result.2, InHand result.1 action
  others : ∀ action, InHand before action → InHand result.1 action

theorem Undisturbed.keepsTidy {before : SharedTasks} {result : SharedTasks × List TaskAction}
    (undisturbed : Undisturbed before result.1) (tidy : Tidy before)
    (follows : ∀ action ∈ result.2, InHand result.1 action) : KeepsTidy before result :=
  ⟨undisturbed.tidy tidy, follows, fun _ inHand => undisturbed.inHand inHand⟩

structure Unregisters (before after : SharedTasks) (id : String) : Prop where
  late : after.late = before.late
  evicted : after.evicted = before.evicted
  gone : after.gone = before.gone
  size : after.registry.size = before.registry.size
  objects : after.registry.objects = before.registry.objects
  tasks : after.registry.tasks = Function.update before.registry.tasks id none

section

variable {shared : SharedTasks} (tidy : Tidy shared)

include tidy

theorem push_keepsTidy {address : Nat} (registered : shared.registry.Registered address)
    (unqueued : address ∉ shared.registry.queued) :
    KeepsTidy shared ({ shared with registry := shared.registry.push address }, []) := by
  refine ⟨⟨⟨tidy.agrees.queue.push_iff.mpr ⟨registered, unqueued⟩, tidy.agrees.late,
    tidy.agrees.evicted⟩, tidy.gone⟩, by simp, fun action inHand => ?_⟩
  exact inHand.mono (Nat.le_refl _) (fun _ _ isGone => isGone) fun _ _ again => again

theorem insert_keepsTidy (idle : Bool) (io : FileIo) (object : TaskPrivate) :
    KeepsTidy shared (SharedTasks.perform idle io shared (.insert object)) := by
  have queue := tidy.agrees.queue.insert object
  simp only [SharedTasks.perform]
  have failed : Err.operateFailed ≠ Err.noError := by decide
  by_cases taken : (shared.registry.tasks object.id).isSome = true
  · simp only [TaskRegistry.insert, if_pos taken, if_neg failed]
    exact Undisturbed.keepsTidy ⟨.refl _, rfl, rfl, rfl⟩ tidy (by simp)
  · have older : ∀ address < shared.registry.size,
        (shared.registry.insert object).2.Registered address →
          shared.registry.Registered address := by
      intro address bound registered
      simp only [TaskRegistry.insert, if_neg taken, TaskRegistry.Registered,
        Function.update_of_ne (Nat.ne_of_lt bound)] at registered
      by_cases sameId : (shared.registry.objects address).id = object.id
      · rw [sameId, Function.update_self, Option.some.injEq] at registered
        exact absurd registered.symm (Nat.ne_of_lt bound)
      · rwa [Function.update_of_ne sameId] at registered
    have grown : (shared.registry.insert object).2.size = shared.registry.size + 1 := by
      simp only [TaskRegistry.insert, if_neg taken]
    have passed : (shared.registry.insert object).1.1 = Err.noError := by
      simp only [TaskRegistry.insert, if_neg taken]
    rw [if_pos passed]
    refine ⟨⟨⟨queue, tidy.agrees.late, tidy.agrees.evicted⟩, fun address isGone => ?_⟩, ?_, ?_⟩
    · obtain ⟨bound, unregistered⟩ := tidy.gone address isGone
      exact ⟨by simp only [grown]; omega, fun again => unregistered (older address bound again)⟩
    · intro action member address about
      rw [List.mem_singleton.mp member] at about ⊢
      cases about
      refine ⟨by simp only [grown]; omega, fun isGone => ?_, fun returned => by cases returned⟩
      exact Nat.lt_irrefl _ (tidy.gone _ isGone).1
    · intro action inHand
      exact inHand.mono (by simp only [grown]; omega) (fun _ _ isGone => isGone) older

theorem Unregisters.keepsTidy {result : SharedTasks} {id : String}
    (unregisters : Unregisters shared result id) (queue : result.registry.QueueAgrees)
    {after : List TaskAction} (follows : ∀ action ∈ after, InHand result action) :
    KeepsTidy shared (result, after) := by
  obtain ⟨late, evicted, gone, size, objects, tasks⟩ := unregisters
  have older : ∀ address, result.registry.Registered address →
      shared.registry.Registered address := by
    intro address registered
    rw [TaskRegistry.Registered, tasks, objects] at registered
    by_cases sameId : (shared.registry.objects address).id = id
    · rw [sameId, Function.update_self] at registered
      contradiction
    · rwa [Function.update_of_ne sameId] at registered
  refine ⟨⟨⟨queue, late.trans tidy.agrees.late, evicted.trans tidy.agrees.evicted⟩,
    fun address isGone => ?_⟩, follows, fun action inHand => ?_⟩
  · obtain ⟨bound, unregistered⟩ := tidy.gone address (gone ▸ isGone)
    exact ⟨size ▸ bound, fun again => unregistered (older address again)⟩
  · exact inHand.mono (Nat.le_of_eq size.symm) (fun _ _ isGone => gone ▸ isGone)
      fun address _ => older address

theorem remove_keepsTidy (idle : Bool) (io : FileIo) (id : String) :
    KeepsTidy shared (SharedTasks.perform idle io shared (.remove id)) := by
  have unregisters : Unregisters shared
      { shared with registry := shared.registry.removeTask id } id := ⟨rfl, rfl, rfl, rfl, rfl, rfl⟩
  refine unregisters.keepsTidy tidy (tidy.agrees.queue.removeTask id) ?_
  intro action member
  split at member
  · cases member
  · rename_i address found
    have registered := TaskRegistry.registered_of_tasks found
    have ready : address < shared.registry.size ∧ address ∉ shared.gone :=
      ⟨registered.lt, tidy.registered registered⟩
    have removed : ¬ (shared.registry.removeTask id).Registered address := by
      have named := shared.registry.named id address found
      simp only [TaskRegistry.Registered, TaskRegistry.removeTask, TaskRegistry.unregister, named,
        Function.update_self]
      simp
    intro other about
    rcases List.mem_cons.mp member with rfl | last
    · cases about
      exact ⟨ready.1, ready.2, fun _ => removed⟩
    · rw [List.mem_singleton.mp last] at about
      cases about
      exact ⟨ready.1, ready.2, fun _ => removed⟩

theorem erase_keepsTidy (idle : Bool) (io : FileIo) {address : Nat}
    (once : QueuesOnce shared (.erase address)) :
    KeepsTidy shared (SharedTasks.perform idle io shared (.erase address)) := by
  have evicted : (SharedTasks.perform idle io shared (.erase address)).1.evicted =
      shared.evicted := by
    simp only [SharedTasks.perform]
    split
    · rfl
    · rename_i other found
      rw [if_pos (once other found).1]
  have unregisters : Unregisters shared (SharedTasks.perform idle io shared (.erase address)).1
      (shared.registry.objects address).id := ⟨rfl, evicted, rfl, rfl, rfl, rfl⟩
  refine unregisters.keepsTidy tidy ?_ (by simp)
  refine (tidy.agrees.queue.unregister_iff _).mpr fun other found => ?_
  obtain ⟨rfl, unqueued⟩ := once other found
  exact unqueued

theorem lock_keepsTidy (idle : Bool) (io : FileIo) {address : Nat} {inside : TaskSection}
    (inHand : InHand shared (.lock address inside)) :
    KeepsTidy shared (SharedTasks.perform idle io shared (.lock address inside)) := by
  simp only [SharedTasks.perform]
  split
  · exact Undisturbed.keepsTidy ⟨.refl _, rfl, rfl, rfl⟩ tidy (by simp)
  · have undisturbed := leave_undisturbed shared address
      (inside.perform (shared.registry.objects address).task (shared.registry.fileOf address) io
        address).1
      (inside.perform (shared.registry.objects address).task (shared.registry.fileOf address) io
        address).2.1
    refine undisturbed.keepsTidy tidy fun action member => ?_
    exact undisturbed.stays inHand rfl (section_stays _ _ io address inside action member)

theorem work_keepsTidy (idle : Bool) (io : FileIo) {address : Nat}
    (inHand : InHand shared (.work address)) :
    KeepsTidy shared (SharedTasks.perform idle io shared (.work address)) := by
  have undisturbed : Undisturbed shared
      (SharedTasks.perform idle io shared (.work address)).1 := by
    have left := leave_undisturbed shared address
      (SharedTasks.switch (shared.registry.objects address).task
        (shared.registry.fileOf address) idle io address).1
      (SharedTasks.switch (shared.registry.objects address).task
        (shared.registry.fileOf address) idle io address).2.1
    simp only [SharedTasks.perform]
    split
    · exact ⟨left.index, rfl, if_neg (inHand address rfl).2.1, rfl⟩
    · exact left
  refine undisturbed.keepsTidy tidy fun action member => ?_
  exact undisturbed.stays inHand rfl (switch_stays _ _ idle io address action member)

theorem action_keepsTidy (idle : Bool) (io : FileIo) {action : TaskAction}
    (inHand : InHand shared action) (once : QueuesOnce shared action)
    (goesOn : ∀ address, action ≠ .returned address) :
    KeepsTidy shared (SharedTasks.perform idle io shared action) := by
  have same : Undisturbed shared shared := ⟨.refl _, rfl, rfl, rfl⟩
  cases action with
  | insert object => exact insert_keepsTidy tidy idle io object
  | remove id => exact remove_keepsTidy tidy idle io id
  | returned address => exact absurd rfl (goesOn address)
  | find id inside =>
      refine same.keepsTidy tidy fun action member => ?_
      simp only [SharedTasks.perform] at member
      split at member
      · cases member
      · rename_i address found
        have registered := TaskRegistry.registered_of_tasks found
        have stays := before_stays address inside action member
        exact .of_registered tidy registered stays.1 (stays.2 address)
  | lock address inside => exact lock_keepsTidy tidy idle io inHand
  | firstUpload address =>
      refine same.keepsTidy tidy fun action member => ?_
      rw [List.mem_singleton.mp member]
      rintro other ⟨⟩
  | notify address notice =>
      have told : KeepsTidy shared (shared.notifies address, []) :=
        (notifies_undisturbed (inHand address rfl).2.1).keepsTidy tidy (by simp)
      exact told
  | resumed address => exact push_keepsTidy tidy once.1 once.2
  | work address => exact work_keepsTidy tidy idle io inHand
  | requeue address => exact push_keepsTidy tidy once.1 once.2
  | erase address => exact erase_keepsTidy tidy idle io once

end

theorem returned_tidy {pool next : TaskThreads} {thread address : Nat} {idle : Bool} {io : FileIo}
    {rest : List TaskAction} (holds : pool.Holds Tidy InHand)
    (first : pool.pending thread = .returned address :: rest)
    (alone : ReturnsAlone pool thread rest (.returned address))
    (advanced : pool.advance (SharedTasks.perform idle io) thread = some next) :
    next.Holds Tidy InHand := by
  have inHand : InHand pool.shared (.returned address) :=
    holds.pending thread _ (Threads.Pool.first_mem first)
  obtain ⟨bound, _, unregistered⟩ := inHand address rfl
  refine holds.advance first advanced ⟨⟨holds.shared.agrees.queue, holds.shared.agrees.late,
    holds.shared.agrees.evicted⟩, ?_⟩ (by simp [SharedTasks.perform]) ?_
  · intro other isGone
    rcases List.mem_cons.mp isGone with rfl | earlier
    · exact ⟨bound, unregistered rfl⟩
    · exact holds.shared.gone other earlier
  · intro other action member ready
    refine ready.mono (Nat.le_refl _) (fun held about isGone => ?_) fun _ _ again => again
    rcases List.mem_cons.mp isGone with rfl | earlier
    · exact absurd about (alone other action member)
    · exact earlier

theorem tidy_step {pool next : TaskThreads} {event : TaskEvent} (holds : pool.Holds Tidy InHand)
    (orderly : Orderly pool event) (stepped : taskStep pool event = some next) :
    next.Holds Tidy InHand := by
  cases taskStep_cases stepped with
  | start thread operation io free started =>
      have index := begin_sameIndex pool.shared.registry io operation
      have undisturbed : Undisturbed pool.shared
          { pool.shared with registry := (operation.begin pool.shared.registry io).1 } :=
        ⟨index, rfl, rfl, rfl⟩
      refine holds.start started (undisturbed.tidy holds.shared) ?_
        fun _ inHand => undisturbed.inHand inHand
      intro action member address about
      rw [begin_about pool.shared.registry io operation action member] at about
      cases about
  | pop address rest queue started =>
      have registered : pool.shared.registry.Registered address := by
        refine holds.shared.agrees.queue.2 address ?_
        rw [queue]
        exact List.mem_cons_self ..
      refine holds.start started ⟨⟨holds.shared.agrees.queue.pop queue,
        holds.shared.agrees.late, holds.shared.agrees.evicted⟩, holds.shared.gone⟩ ?_ ?_
      · intro action member
        rw [List.mem_singleton.mp member]
        rintro other ⟨⟩
        exact ⟨registered.lt, holds.shared.registered registered,
          fun returned => (by cases returned)⟩
      · exact fun action inHand => inHand.mono (Nat.le_refl _) (fun _ _ isGone => isGone)
          fun _ _ again => again
  | advance thread idle io action rest first advanced =>
      simp only [Orderly, first] at orderly
      obtain ⟨once, alone⟩ := orderly
      have inHand : InHand pool.shared action :=
        holds.pending thread action (Threads.Pool.first_mem first)
      by_cases returns : ∃ address, action = .returned address
      · obtain ⟨address, rfl⟩ := returns
        exact returned_tidy holds first alone advanced
      · have keeps := action_keepsTidy holds.shared idle io inHand once
          fun address returned => returns ⟨address, returned⟩
        exact holds.advance first advanced keeps.tidy keeps.follows
          fun _ after _ ready => keeps.others after ready

/-- In every run in which the queue takes registered tasks once, `exec` erases its own and
`removeTask` returns when no thread has the task in hand, queue and map agree, and nothing more
happens to a removed task. -/
theorem scheduler_agrees (files : String → Option (List UInt8)) (events : List TaskEvent)
    (orderly : Transition.Happening taskStep Orderly (initialThreads files) events) :
    Transition.Throughout taskStep (fun pool => SchedulerAgrees pool.shared)
      (initialThreads files) events := by
  have start : (initialThreads files).Holds Tidy InHand := by
    refine ⟨⟨⟨⟨List.nodup_nil, fun address queued => ?_⟩, rfl, rfl⟩, fun address isGone => ?_⟩,
      fun thread action member => ?_⟩
    · cases queued
    · cases isGone
    · cases member
  have throughout : Transition.Throughout taskStep (Threads.Pool.Holds Tidy InHand)
      (initialThreads files) events := by
    refine orderly.throughout taskStep ?_ start
    exact fun pool event next holds allowed stepped => tidy_step holds allowed stepped
  exact throughout.mono taskStep fun _ holds => holds.shared.agrees

def oneUpload : TaskOperation :=
  .addTaskActively { id := "t", serverHost := "", serverPort := 0, partnerId := 7
                     fromDirectory := "/from", toDirectory := "/to", fileName := "file"
                     task := { starter := .self, action := .write, state := .waitingForStart } }
    .write 0 false

def uploadOpened : List TaskEvent :=
  [.start 1 oneUpload {}, .advance 1 false {}, .advance 1 false {}, .pop, .advance 0 false {},
    .advance 0 false {}, .advance 0 false {}, .advance 0 false {}]

/-- Then it is removed, and `exec` finds the queue empty. -/
def uploadRemoved : List TaskEvent :=
  uploadOpened ++ [.start 1 (.removeTask "t") {}, .advance 1 false {}, .advance 1 false {},
    .advance 1 false {}]

theorem uploadRemoved_agrees :
    (Transition.run taskStep (initialThreads fun _ => some [1]) uploadRemoved).isSome ∧
      Transition.Throughout taskStep (fun pool => SchedulerAgrees pool.shared)
        (initialThreads fun _ => some [1]) uploadRemoved := by
  refine ⟨rfl, scheduler_agrees (fun _ => some [1]) uploadRemoved ?_⟩
  refine .cons taskStep rfl trivial ?_
  refine .cons taskStep rfl ⟨trivial, trivial⟩ ?_
  refine .cons taskStep rfl ⟨trivial, trivial⟩ ?_
  refine .cons taskStep rfl trivial ?_
  refine .cons taskStep rfl ⟨trivial, trivial⟩ ?_
  refine .cons taskStep rfl ⟨trivial, trivial⟩ ?_
  refine .cons taskStep rfl ⟨trivial, trivial⟩ ?_
  refine .cons taskStep rfl ⟨⟨rfl, by decide⟩, trivial⟩ ?_
  refine .cons taskStep rfl trivial ?_
  refine .cons taskStep rfl ⟨trivial, trivial⟩ ?_
  refine .cons taskStep rfl ⟨trivial, trivial⟩ ?_
  refine .cons taskStep rfl ⟨trivial, ?_⟩ trivial
  have ran : Transition.run taskStep (initialThreads fun _ => some [1])
      (uploadOpened ++ [.start 1 (.removeTask "t") {}, .advance 1 false {}, .advance 1 false {}]) =
        some _ := rfl
  intro other action member
  by_cases same : other = 1
  · subst same
    rw [Function.update_self] at member
    contradiction
  · rw [Function.update_of_ne same] at member
    by_cases loop : other = 0
    · subst loop
      cases member
    · rw [run_idle ran (by simp [uploadOpened, TaskEvent.thread, same, loop])] at member
      cases member

/-- The partner opens its file, and the task is stopped and resumed before `exec` comes to it:
it stands in the queue twice. -/
theorem resumed_queuedTwice :
    ¬ Transition.Throughout taskStep (fun pool => SchedulerAgrees pool.shared)
      (initialThreads fun _ => some [1])
      (uploadOpened ++
        [.start 1 (.call "t" .remoteSuccessOpenFile) {}, .advance 1 false {}, .advance 1 false {},
          .start 2 (.call "t" .stopTask) {}, .advance 2 false {}, .advance 2 false {},
          .advance 2 false {}, .advance 2 false {},
          .start 2 (.call "t" .resumeTask) {}, .advance 2 false {}, .advance 2 false {},
          .advance 2 false {}, .advance 2 false {}]) := by
  intro agrees
  have twice := (agrees.final taskStep rfl).queue.1
  revert twice
  decide

end EasyViewer
