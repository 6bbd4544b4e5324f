import SensorFirmware.FirmwareValidation

/-!
# Rollback over runs

What holds over any resets and updates: an image is confirmed only by its first
boot, one that is not confirmed never runs again, and an accepted image stays
to fall back on as long as no other firmware writes an update.
-/

namespace SensorFirmware

open GuardedRun

variable {Image : Type} {boots : BootConfig} {cfg : SelfTestConfig}
  {loader : BootLoader Image}

namespace FirmwareDevice

/-! ## A device with one image -/

def soundTest : SelfTestEnv :=
  ⟨true, [⟨true, 0x0180⟩], 90000, 40000, some 0x380000, some 0x380000, true, 7,
    true, 0, true, 300⟩

def softReset : BootReset :=
  ⟨.sw, none, none, true, true, true, true, true, true, by simp⟩

def soundSetup : FirmwareSetup :=
  ⟨softReset, true, false,
    ⟨some 0x5000, some 0x2000, some 0x380000, some 0x380000⟩,
    ⟨.ok, true, true⟩, some 0x0180, true, soundTest, true, true⟩

def threeResets : BootConfig := ⟨0xB007B007, 0, 1, 3, 5000⟩

def threeProbes : SelfTestConfig := ⟨3, 5000⟩

/-- Image 1 was written by cable and runs. -/
def cableFlashed : FirmwareDevice ℕ where
  flash := ⟨⟨some 1, .undefined⟩, ⟨none, .undefined⟩, .app0⟩
  boot := ⟨⟨0, 0xB007B007, 0, 0⟩, none, .construct, .application⟩
  running := some .app0
  mode := .application

/-! ## Tested images -/

/-- The reset runs the image in the slot for the first time and confirms it. -/
structure ConfirmedBy (boots : BootConfig) (loader : BootLoader Image)
    (device : FirmwareDevice Image) (slot : Slot) (image : Image)
    (env : FirmwareSetup) : Prop where
  content : device.flash.get slot = ⟨some image, .new⟩
  selected : (loader.select device.flash).2 = some slot
  confirms : Confirms boots env .pendingVerify device.boot

theorem valid_step (hloader : loader.Lawful) {device : FirmwareDevice Image}
    {event : FirmwareEvent Image} {slot : Slot} {image : Image}
    (hvalid : (device.step boots cfg loader event).flash.get slot =
      ⟨some image, .valid⟩) :
    device.flash.get slot = ⟨some image, .valid⟩ ∨
      ∃ env, event = .reset env ∧
        ConfirmedBy boots loader device slot image env := by
  cases event with
  | reset env =>
      rw [step] at hvalid
      have himage := image_reset boots cfg hloader env device slot
      have hstate := (valid_reset_iff hloader env device slot).mp
        (congrArg AppSlot.state hvalid)
      rw [hvalid] at himage
      generalize hcontent : device.flash.get slot = content at himage hstate
      obtain ⟨held, state⟩ := content
      dsimp only at himage hstate
      subst himage
      rcases hstate with rfl | ⟨hselect, rfl, hconfirms⟩
      · exact .inl rfl
      · exact .inr ⟨env, rfl, hcontent, hselect, hconfirms⟩
  | beginUpdate =>
      cases hupdater : device.updater with
      | none =>
          simp only [step, hupdater] at hvalid
          exact .inl hvalid
      | some running =>
          simp only [step, hupdater] at hvalid
          by_cases hne : slot = running.next
          · subst hne
            rw [OtaFlash.erase, OtaFlash.get_set_self] at hvalid
            cases congrArg AppSlot.image hvalid
          · rw [OtaFlash.get_erase_of_ne _ hne] at hvalid
            exact .inl hvalid
  | commitUpdate written =>
      cases hupdater : device.updater with
      | none =>
          simp only [step, hupdater] at hvalid
          exact .inl hvalid
      | some running =>
          simp only [step, hupdater] at hvalid
          by_cases hne : slot = running.next
          · subst hne
            rw [OtaFlash.get_install_self] at hvalid
            cases congrArg AppSlot.state hvalid
          · rw [OtaFlash.get_install_of_ne _ hne] at hvalid
            exact .inl hvalid

/-- Whatever happens, an image that is marked valid was so from the start or
has passed the self-test, on sound storage and with no wrong sensor, in its
first boot. -/
theorem valid_images_tested (hloader : loader.Lawful)
    (device : FirmwareDevice Image) (events : List (FirmwareEvent Image))
    (slot : Slot) (image : Image)
    (hvalid : (run (step boots cfg loader) device events).flash.get slot =
      ⟨some image, .valid⟩) :
    device.flash.get slot = ⟨some image, .valid⟩ ∨
      ∃ before env after, events = before ++ .reset env :: after ∧
        ConfirmedBy boots loader (run (step boots cfg loader) device before)
          slot image env := by
  induction events using List.reverseRecOn with
  | nil => exact .inl hvalid
  | append_singleton events event ih =>
      rw [run_append, run_cons, run_nil] at hvalid
      rcases valid_step hloader hvalid with hbefore | ⟨env, rfl, hconfirmed⟩
      · rcases ih hbefore with hstart | ⟨before, env, after, rfl, hconfirmed⟩
        · exact .inl hstart
        · exact .inr ⟨before, env, after ++ [event], by simp, hconfirmed⟩
      · exact .inr ⟨events, env, [], rfl, hconfirmed⟩

theorem valid_images_tested_update :
    cableFlashed.flash.get .app1 = ⟨some 2, .valid⟩ ∨
      ∃ before env after,
        [.beginUpdate, .commitUpdate 2, .reset soundSetup] =
          before ++ FirmwareEvent.reset env :: after ∧
        ConfirmedBy threeResets RollbackLoader.bootLoader
          (run (step threeResets threeProbes RollbackLoader.bootLoader)
            cableFlashed before) .app1 2 env :=
  valid_images_tested RollbackLoader.lawful _ _ _ _ (by decide)

/-! ## Images that were not confirmed -/

/-- The event writes a new image to the slot. -/
def Installs (slot : Slot) (device : FirmwareDevice Image) :
    FirmwareEvent Image → Prop
  | .commitUpdate _ => device.updater = some slot.next
  | _ => False

/-- The slot was started and not confirmed. -/
def Spent (flash : OtaFlash Image) (slot : Slot) : Prop :=
  (flash.get slot).state = .pendingVerify ∨
    (flash.get slot).state = .invalid ∨ (flash.get slot).state = .aborted

theorem spent_setState (flash : OtaFlash Image) (slot : Slot)
    {state : OtaImgState} (hstate : state = .invalid) :
    Spent (flash.setState slot state) slot := by
  rw [Spent, OtaFlash.setState, OtaFlash.get_set_self, hstate]
  exact .inr (.inl rfl)

/-- A slot that ran is accepted or spent afterwards. -/
theorem accepted_or_spent_reset (hloader : loader.Lawful) {env : FirmwareSetup}
    {device : FirmwareDevice Image} {slot : Slot}
    (hrunning : (device.reset boots cfg loader env).running = some slot) :
    ((device.reset boots cfg loader env).flash.get slot).state.Accepted ∨
      Spent (device.reset boots cfg loader env).flash slot := by
  cases hselect : (loader.select device.flash).2 with
  | none =>
      rw [(flash_reset_none boots cfg env hselect).2] at hrunning
      cases hrunning
  | some other =>
      have hbooted := booted_reset boots cfg env hselect
      rw [hbooted.1] at hrunning
      obtain rfl : other = slot := Option.some.inj hrunning
      rcases hbooted.2 with ⟨-, -, hflash⟩ | ⟨-, -, hflash⟩ | ⟨-, hflash⟩
      · rw [hflash, OtaFlash.setState, OtaFlash.get_set_self]
        exact .inl (.inl rfl)
      · rw [hflash]
        exact .inr (spent_setState _ _ rfl)
      · rw [hflash]
        rcases (hloader.bootable device.flash other hselect).2 with
          hnew | hvalid | hraw
        · exact .inr (.inl (hloader.started device.flash other hselect hnew))
        · refine .inl ?_
          rw [hloader.accepted (.inl hvalid)]
          exact .inl hvalid
        · refine .inl ?_
          rw [hloader.accepted (.inr hraw)]
          exact .inr hraw

theorem not_selected_of_spent (hloader : loader.Lawful)
    {flash : OtaFlash Image} {slot : Slot} (hspent : Spent flash slot) :
    (loader.select flash).2 ≠ some slot := by
  intro hselect
  have hbootable := (hloader.bootable flash slot hselect).2
  rcases hspent with hstate | hstate | hstate <;> rw [hstate] at hbootable <;>
    revert hbootable <;> decide

theorem spent_select (hloader : loader.Lawful) {flash : OtaFlash Image}
    {slot : Slot} (hspent : Spent flash slot) :
    Spent (loader.select flash).1 slot := by
  rcases hspent with hstate | hstate | hstate
  · exact .inr (.inr (hloader.aborted flash slot hstate))
  · have hkept := hloader.kept flash slot (by simp [hstate]) (by simp [hstate])
    exact .inr (.inl (hkept.trans hstate))
  · have hkept := hloader.kept flash slot (by simp [hstate]) (by simp [hstate])
    exact .inr (.inr (hkept.trans hstate))

theorem spent_reset (hloader : loader.Lawful) (env : FirmwareSetup)
    {device : FirmwareDevice Image} {slot : Slot}
    (hspent : Spent device.flash slot) :
    Spent (device.reset boots cfg loader env).flash slot ∧
      (device.reset boots cfg loader env).running ≠ some slot := by
  have hnot := not_selected_of_spent hloader hspent
  have hkept := spent_select hloader hspent
  cases hselect : (loader.select device.flash).2 with
  | none =>
      have hreset := flash_reset_none boots cfg env hselect
      rw [hreset.1, hreset.2]
      exact ⟨hkept, by simp⟩
  | some running =>
      have hbooted := booted_reset boots cfg env hselect
      have hne : slot ≠ running := by
        rintro rfl
        exact hnot hselect
      constructor
      · unfold Spent
        rw [get_booted_of_ne hbooted hne]
        exact hkept
      · rw [hbooted.1]
        exact fun hsame => hne (Option.some.inj hsame).symm

theorem spent_step (hloader : loader.Lawful) {device : FirmwareDevice Image}
    {event : FirmwareEvent Image} {slot : Slot}
    (hspent : Spent device.flash slot)
    (hinstalls : ¬Installs slot device event) :
    Spent (device.step boots cfg loader event).flash slot := by
  cases event with
  | reset env => exact (spent_reset hloader env hspent).1
  | beginUpdate =>
      cases hupdater : device.updater with
      | none =>
          simp only [step, hupdater]
          exact hspent
      | some running =>
          simp only [step, hupdater]
          unfold Spent
          by_cases hne : slot = running.next
          · subst hne
            rw [OtaFlash.erase, OtaFlash.get_set_self]
            exact hspent
          · rw [OtaFlash.get_erase_of_ne _ hne]
            exact hspent
  | commitUpdate image =>
      cases hupdater : device.updater with
      | none =>
          simp only [step, hupdater]
          exact hspent
      | some running =>
          simp only [step, hupdater]
          have hne : slot ≠ running.next := by
            rintro rfl
            refine hinstalls (hupdater.trans ?_)
            cases running <;> rfl
          unfold Spent
          rw [OtaFlash.get_install_of_ne _ hne]
          exact hspent

/-- A slot whose boot did not confirm it runs in no later boot until a new
image is written to it. -/
theorem unconfirmed_runs_once (hloader : loader.Lawful)
    (device : FirmwareDevice Image) (env : FirmwareSetup) (slot : Slot)
    (events : List (FirmwareEvent Image))
    (hrunning : (device.reset boots cfg loader env).running = some slot)
    (hunconfirmed :
      ¬((device.reset boots cfg loader env).flash.get slot).state.Accepted)
    (hkept : Guarded (step boots cfg loader)
      (fun device event => ¬Installs slot device event)
      (device.reset boots cfg loader env) events) :
    ∀ before later after, events = before ++ .reset later :: after →
      (run (step boots cfg loader) (device.reset boots cfg loader env)
        (before ++ [.reset later])).running ≠ some slot := by
  rintro before later after rfl
  have hspent := (accepted_or_spent_reset hloader hrunning).resolve_left
    hunconfirmed
  have hbefore := ((guarded_append _ before _).mp hkept).1
  have hstep : ∀ (device : FirmwareDevice Image) (event : FirmwareEvent Image),
      Spent device.flash slot → ¬Installs slot device event →
        Spent (device.step boots cfg loader event).flash slot :=
    fun device event hs hinstalls => spent_step hloader hs hinstalls
  have hreached := invariant_run hstep hspent hbefore
  rw [run_append, run_cons, run_nil]
  exact (spent_reset hloader later hreached).2

/-- An image whose heap is too small at its first boot. -/
theorem unconfirmed_runs_once_heap :
    let setup := { soundSetup with
      selfTest := { soundTest with freeHeap := 40000 } }
    let updated := run
      (step threeResets threeProbes RollbackLoader.bootLoader) cableFlashed
      [.beginUpdate, .commitUpdate 2]
    ∀ before later after,
      [.reset soundSetup] = before ++ FirmwareEvent.reset later :: after →
        (run (step threeResets threeProbes RollbackLoader.bootLoader)
          (updated.reset threeResets threeProbes RollbackLoader.bootLoader
            setup) (before ++ [.reset later])).running ≠ some .app1 :=
  unconfirmed_runs_once RollbackLoader.lawful _ _ _ _ (by decide)
    (by decide) ⟨id, trivial⟩

/-! ## An image to fall back on -/

/-- The slot holds a whole image that was accepted. -/
def AcceptedImage (flash : OtaFlash Image) (slot : Slot) : Prop :=
  (flash.get slot).image.isSome ∧ (flash.get slot).state.Accepted

def HasFallback (device : FirmwareDevice Image) : Prop :=
  ∃ slot, AcceptedImage device.flash slot

/-- Only accepted firmware writes an update. -/
def UpdatesFromAccepted (device : FirmwareDevice Image) :
    FirmwareEvent Image → Prop
  | .reset _ => True
  | .beginUpdate | .commitUpdate _ =>
      ∀ slot ∈ device.updater, AcceptedImage device.flash slot

theorem acceptedImage_reset (hloader : loader.Lawful) (env : FirmwareSetup)
    {device : FirmwareDevice Image} {slot : Slot}
    (haccepted : AcceptedImage device.flash slot) :
    AcceptedImage (device.reset boots cfg loader env).flash slot := by
  obtain ⟨himage, hstate⟩ := haccepted
  have hkept := hloader.accepted hstate
  refine ⟨?_, ?_⟩
  · rw [image_reset boots cfg hloader env device slot]
    exact himage
  · cases hselect : (loader.select device.flash).2 with
    | none =>
        rw [(flash_reset_none boots cfg env hselect).1, hkept]
        exact hstate
    | some running =>
        have hbooted := booted_reset boots cfg env hselect
        by_cases hne : slot = running
        · subst hne
          have hnot : ((loader.select device.flash).1.get slot).state ≠
              .pendingVerify := by
            rw [hkept]
            rcases hstate with hvalid | hraw
            · simp [hvalid]
            · simp [hraw]
          rcases hbooted.2 with ⟨-, hpending, -⟩ | ⟨-, hpending, -⟩ |
            ⟨-, hflash⟩
          · exact absurd hpending hnot
          · exact absurd hpending hnot
          · rw [hflash, hkept]
            exact hstate
        · rw [get_booted_of_ne hbooted hne, hkept]
          exact hstate

/-- An update by accepted firmware leaves it in place; one by any other
firmware takes the only accepted image away. -/
theorem hasFallback_update {device : FirmwareDevice Image} {running : Slot}
    {flash : OtaFlash Image}
    (hother : flash.get running = device.flash.get running)
    (hwritten : ¬AcceptedImage flash running.next) :
    (∃ slot, AcceptedImage flash slot) ↔
      AcceptedImage device.flash running := by
  have hsame : AcceptedImage flash running ↔
      AcceptedImage device.flash running := by
    unfold AcceptedImage
    rw [hother]
  constructor
  · rintro ⟨slot, hslot⟩
    by_cases hne : slot = running
    · subst hne
      exact hsame.mp hslot
    · rw [Slot.eq_next_of_ne hne] at hslot
      exact absurd hslot hwritten
  · intro hrunning
    exact ⟨running, hsame.mpr hrunning⟩

theorem hasFallback_step (hloader : loader.Lawful)
    {device : FirmwareDevice Image} (event : FirmwareEvent Image)
    (hfallback : device.HasFallback) :
    (device.step boots cfg loader event).HasFallback ↔
      UpdatesFromAccepted device event := by
  cases event with
  | reset env =>
      obtain ⟨slot, hslot⟩ := hfallback
      exact iff_of_true ⟨slot, acceptedImage_reset hloader env hslot⟩ trivial
  | beginUpdate =>
      cases hupdater : device.updater with
      | none => simp [step, UpdatesFromAccepted, hupdater, hfallback]
      | some running =>
          have hother : (device.flash.erase running.next).get running =
              device.flash.get running :=
            OtaFlash.get_erase_of_ne _ running.next_ne.symm
          have hwritten : ¬AcceptedImage (device.flash.erase running.next)
              running.next := by
            rw [AcceptedImage, OtaFlash.erase, OtaFlash.get_set_self]
            simp
          simp only [step, hupdater, UpdatesFromAccepted, Option.mem_some_iff,
            forall_eq']
          exact hasFallback_update hother hwritten
  | commitUpdate image =>
      cases hupdater : device.updater with
      | none => simp [step, UpdatesFromAccepted, hupdater, hfallback]
      | some running =>
          have hother :
              (device.flash.install running.next image).get running =
                device.flash.get running :=
            OtaFlash.get_install_of_ne _ running.next_ne.symm image
          have hwritten : ¬AcceptedImage
              (device.flash.install running.next image) running.next := by
            rw [AcceptedImage, OtaFlash.get_install_self]
            rintro ⟨-, hvalid | hraw⟩
            · cases hvalid
            · cases hraw
          simp only [step, hupdater, UpdatesFromAccepted, Option.mem_some_iff,
            forall_eq']
          exact hasFallback_update hother hwritten

theorem running_reset_of_fallback (hloader : loader.Lawful) (env : FirmwareSetup)
    {device : FirmwareDevice Image} (hfallback : device.HasFallback) :
    (device.reset boots cfg loader env).running.isSome := by
  obtain ⟨slot, himage, hstate⟩ := hfallback
  obtain ⟨running, hselect⟩ := Option.isSome_iff_exists.mp
    (hloader.fallback device.flash slot himage hstate)
  rw [(booted_reset boots cfg env hselect).1]
  rfl

/-- From a device with an accepted image, over any resets and updates: it has
one to fall back on all along exactly if every update is written by accepted
firmware, and as long as it has one every reset runs some image. -/
theorem fallback_kept_iff (hloader : loader.Lawful)
    (device : FirmwareDevice Image) (hfallback : device.HasFallback)
    (events : List (FirmwareEvent Image)) :
    ((∀ k, (run (step boots cfg loader) device
        (events.take k)).HasFallback) ↔
      Guarded (step boots cfg loader) UpdatesFromAccepted device events) ∧
    ∀ k env, (run (step boots cfg loader) device (events.take k)).HasFallback →
      ((run (step boots cfg loader) device (events.take k)).reset boots cfg
        loader env).running.isSome := by
  have hstep : ∀ (device : FirmwareDevice Image) (event : FirmwareEvent Image),
      True → device.HasFallback →
        ((device.step boots cfg loader event).HasFallback ↔
          UpdatesFromAccepted device event) :=
    fun _ event _ hdevice => hasFallback_step hloader event hdevice
  exact ⟨always_iff_guarded (fun _ _ _ => trivial) hstep trivial hfallback
    events, fun _ env hhere => running_reset_of_fallback hloader env hhere⟩

theorem fallback_kept_update :
    let events := [.beginUpdate, .commitUpdate 2, .reset soundSetup]
    ((∀ k, (run (step threeResets threeProbes RollbackLoader.bootLoader)
        cableFlashed (events.take k)).HasFallback) ↔
      Guarded (step threeResets threeProbes RollbackLoader.bootLoader)
        UpdatesFromAccepted cableFlashed events) ∧
    ∀ k env, (run (step threeResets threeProbes RollbackLoader.bootLoader)
        cableFlashed (events.take k)).HasFallback →
      ((run (step threeResets threeProbes RollbackLoader.bootLoader)
        cableFlashed (events.take k)).reset threeResets threeProbes
          RollbackLoader.bootLoader env).running.isSome :=
  fallback_kept_iff RollbackLoader.lawful cableFlashed
    ⟨.app0, rfl, .inr rfl⟩ _

end FirmwareDevice

end SensorFirmware
