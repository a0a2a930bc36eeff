import Mathlib.Data.List.Forall2
import WalletDashboard.Proofs.MemoryRuns
import WalletDashboard.Proofs.Redaction

/-!
# Secrets do not leak

Everything that happens to a session over the service in memory is seen the same without the secrets
of the wallets, except that a key selects a wallet. So the service without secrets is told which
wallet an import selects, and then goes through the same events (`handle_redacted`).

* `MemoryState.transcript` is what the events of a list give back, with the session after each.
* `MemoryState.selections` is what the imports among them select.
* `MemoryState.transcript_alike`: two runs over wallets with the same addresses, in which imports
  select the same wallets, give back the same and look the same at every point.
-/

namespace WalletDashboard

/-- The wallet without its secrets. -/
def StoredWallet.redacted (w : StoredWallet) : StoredWallet :=
  { w with privateKey := "", mnemonic := "" }

namespace MemoryState

/-! ### The service without secrets -/

/-- Registered wallets without their secrets. -/
def blotOut (wallets : List (String × StoredWallet)) : List (String × StoredWallet) :=
  wallets.map fun (address, w) => (address, w.redacted)

/-- The state without secrets. -/
def redacted (m : MemoryState) : MemoryState := { m with wallets := blotOut m.wallets }

/-- The wallets of `mint` without their secrets. -/
def blank (mint : Nat → WalletExport) (n : Nat) : WalletExport := (mint n).redacted

/-- The address of the wallet that a key or phrase belongs to. -/
def selected? (key : String) (m : MemoryState) : Option String :=
  (m.wallets.find? fun (_, w) => w.matches (phraseOf key)).map Prod.fst

/-- The address of the wallet that an import of the dashboard selects. -/
def imported? (key : String) (m : MemoryState) : Option String :=
  if Text.trim key = "" then none else m.selected? (Text.trim key)

/-- Opens the session of the selected wallet, if one is selected. -/
def openSession (selected : Option String) (m : MemoryState) : Reply MemoryState Unit :=
  match selected with
  | none => .refuse .invalidKey m
  | some address =>
    { outcome := .ok ()
      state := { m with active := some address }
      log := [⟨.info, "[MemoryService] Imported wallet " ++ address⟩] }

/-- The service, except that imports select this wallet, or none, whatever the key is. -/
def guided (mint : Nat → WalletExport) (window : Nat) (selected : Option String) :
    WalletService MemoryState :=
  { service mint window with importWallet := fun _ => openSession selected }

/-- An import depends on the secrets only by what the key selects among them. -/
theorem importWallet_eq_openSession (key : String) (m : MemoryState) :
    importWallet key m = openSession (m.selected? key) m := by
  unfold importWallet selected? openSession
  cases m.wallets.find? fun (_, w) => w.matches (phraseOf key) <;> rfl

theorem lookup_blotOut (wallets : List (String × StoredWallet)) (address : String) :
    (blotOut wallets).lookup address = (wallets.lookup address).map StoredWallet.redacted := by
  induction wallets with
  | nil => rfl
  | cons e rest ih =>
    obtain ⟨a, w⟩ := e
    show List.lookup address ((a, w.redacted) :: blotOut rest) = _
    rw [Json.lookup_cons_eq_ite, Json.lookup_cons_eq_ite, ih]
    split <;> rfl

theorem blotOut_register (address : String) (stored : StoredWallet)
    (wallets : List (String × StoredWallet)) :
    blotOut (register address stored wallets) =
      register address stored.redacted (blotOut wallets) := by
  induction wallets with
  | nil => rfl
  | cons e rest ih =>
    obtain ⟨a, w⟩ := e
    show blotOut (register address stored ((a, w) :: rest)) =
      register address stored.redacted ((a, w.redacted) :: blotOut rest)
    unfold register
    split
    · rfl
    · exact congrArg (_ :: ·) ih

theorem stored?_redacted (m : MemoryState) (address : String) :
    m.redacted.stored? address = (m.stored? address).map StoredWallet.redacted :=
  lookup_blotOut m.wallets address

theorem openSession_redacted (selected : Option String) (m : MemoryState) :
    openSession selected m.redacted = (openSession selected m).seenAs redacted id := by
  cases selected <;> rfl

theorem getWallet_redacted (m : MemoryState) :
    getWallet m.redacted = (getWallet m).seenAs redacted id := by
  have hfound : (m.redacted.active.bind fun address =>
      (m.redacted.stored? address).map fun w => (⟨address, w.balance⟩ : Wallet)) =
        m.active.bind fun address => (m.stored? address).map fun w => ⟨address, w.balance⟩ := by
    refine congrArg (Option.bind m.active) (funext fun address => ?_)
    rw [stored?_redacted, Option.map_map]
    rfl
  rw [getWallet, hfound]
  rfl

theorem createWallet_of_taken (mint : Nat → WalletExport) (m : MemoryState)
    (h : (m.stored? (mint m.draws).address).isSome = true) :
    createWallet mint m =
      .refuse (.importRefused ("address collision for " ++ (mint m.draws).address))
        { m with draws := m.draws + 1 } :=
  if_pos h

theorem createWallet_of_free (mint : Nat → WalletExport) (m : MemoryState)
    (h : ¬(m.stored? (mint m.draws).address).isSome = true) :
    createWallet mint m =
      { outcome := .ok (mint m.draws)
        state :=
          { m with
            draws := m.draws + 1
            wallets := register (mint m.draws).address
              ⟨(mint m.draws).privateKey, (mint m.draws).mnemonic, 0⟩ m.wallets
            active := some (mint m.draws).address }
        log := [⟨.info, "[MemoryService] Created wallet " ++ (mint m.draws).address⟩] } :=
  if_neg h

theorem createWallet_redacted (mint : Nat → WalletExport) (m : MemoryState) :
    createWallet (blank mint) m.redacted =
      (createWallet mint m).seenAs redacted WalletExport.redacted := by
  have htaken : (m.redacted.stored? (mint m.draws).address).isSome =
      (m.stored? (mint m.draws).address).isSome := by
    rw [stored?_redacted, Option.isSome_map]
  by_cases h : (m.stored? (mint m.draws).address).isSome = true
  · rw [createWallet_of_taken mint m h,
      createWallet_of_taken (blank mint) m.redacted (htaken.trans h)]
    rfl
  · rw [createWallet_of_free mint m h,
      createWallet_of_free (blank mint) m.redacted fun h' => h (htaken.symm.trans h')]
    simp only [Reply.seenAs, redacted, blotOut_register]
    rfl

theorem refreshWallet_redacted (m : MemoryState) :
    refreshWallet m.redacted = (refreshWallet m).seenAs redacted id := by
  obtain ⟨wallets, active, blocks, height, offline, fw, fb, fl, draws⟩ := m
  cases offline with
  | true => rfl
  | false =>
    cases fw with
    | true => rfl
    | false =>
      cases active with
      | none => rfl
      | some address =>
        simp only [refreshWallet, redacted, stored?, lookup_blotOut]
        cases wallets.lookup address with
        | none => rfl
        | some w =>
          simp [Reply.answer, Reply.seenAs, blotOut_register, redacted, StoredWallet.redacted,
            Except.map]

theorem refreshBlockHeight_redacted (m : MemoryState) :
    refreshBlockHeight m.redacted = (refreshBlockHeight m).seenAs redacted id := by
  obtain ⟨wallets, active, blocks, height, offline, fw, fb, fl, draws⟩ := m
  cases offline <;> cases fb <;> rfl

theorem logout_redacted (m : MemoryState) :
    logout m.redacted = (logout m).seenAs redacted id := by
  obtain ⟨wallets, active, blocks, height, offline, fw, fb, fl, draws⟩ := m
  cases fl <;> rfl

theorem recentBlocks_redacted (window : Nat) (m : MemoryState) :
    recentBlocks window m.redacted = (recentBlocks window m).seenAs redacted id := by
  obtain ⟨wallets, active, blocks, height, offline, fw, fb, fl, draws⟩ := m
  cases offline <;> rfl

theorem redacts_service (mint : Nat → WalletExport) (window : Nat) (selected : Option String) :
    (service mint window).Redacts redacted (guided (blank mint) window selected) where
  getWallet := getWallet_redacted
  createWallet := createWallet_redacted mint
  refreshWallet := refreshWallet_redacted
  refreshBlockHeight := refreshBlockHeight_redacted
  logout := logout_redacted
  recentBlocks := recentBlocks_redacted window

/-! ### Events without secrets -/

/-- The change without the secrets of the wallet that it registers, if it does. -/
def Command.redacted : Command → Command
  | .addWallet e => .addWallet e.redacted
  | c => c

/-- The change without secrets. -/
def Change.redacted : Change → Change
  | .command c => .command c.redacted
  | .call c => .call c.redacted

theorem apply_redacted (m : MemoryState) (c : Command) :
    (m.apply c).redacted = m.redacted.apply c.redacted := by
  cases c with
  | addWallet e =>
    show ({ m with wallets := register e.address _ m.wallets } : MemoryState).redacted = _
    simp only [redacted, blotOut_register]
    rfl
  | _ => rfl

end MemoryState

/-- The event without secrets. -/
def Event.redacted : Event MemoryState.Change → Event MemoryState.Change
  | .act a => .act a.redacted
  | .outside k => .outside k.redacted
  | .readerLeaves => .readerLeaves

/-- What an event gives back. -/
inductive Feedback
  | nothing
  /-- Whether an operation of the user succeeded. -/
  | success (b : Bool)
  /-- What the service answers to a direct call. -/
  | answer (outcome : Except Failure ServiceAnswer)

/-- What an event gives back, without secrets. -/
def Feedback.redacted : Feedback → Feedback
  | nothing => nothing
  | success b => success b
  | answer outcome => answer (outcome.map ServiceAnswer.redacted)

namespace MemoryState

variable {mint mint' : Nat → WalletExport} {window : Nat}

/-- What an event gives back, and the session after it. What the service writes in a direct call
goes to the log as well. -/
def handle (svc : WalletService MemoryState) (s : Session MemoryState) :
    Event Change → Feedback × Session MemoryState
  | .act a => ((s.perform svc a).1.elim .nothing .success, (s.perform svc a).2)
  | .outside (.command c) => (.nothing, s.onService (·.apply c))
  | .outside (.call c) => (.answer (s.ask (svc.call c)).1, (s.ask (svc.call c)).2)
  | .readerLeaves => (.nothing, s.dropReader)

/-- What the events of a list give back, each with the session after it. -/
def transcript (mint : Nat → WalletExport) (window : Nat) (s : Session MemoryState) :
    List (Event Change) → List (Feedback × Session MemoryState)
  | [] => []
  | e :: events =>
    handle (service mint window) s e ::
      transcript mint window (handle (service mint window) s e).2 events

/-- The address of the wallet that an event imports, if it comes to an import and a wallet belongs
to the key. -/
def selection (s : Session MemoryState) : Event Change → Option String
  | .act (.importWallet key) => s.service.imported? key
  | .act (.importOnStartup key) =>
    match s.service.getWallet.outcome with
    | .ok none => s.service.imported? key
    | _ => none
  | .outside (.call (.importWallet key)) => s.service.selected? key
  | _ => none

/-- What the events of a list import, one after another. -/
def selections (mint : Nat → WalletExport) (window : Nat) (s : Session MemoryState) :
    List (Event Change) → List (Option String)
  | [] => []
  | e :: events =>
    selection s e :: selections mint window (handle (service mint window) s e).2 events

/-- The transcript of events of which is told what they import. -/
def guidedTranscript (mint : Nat → WalletExport) (window : Nat) (s : Session MemoryState) :
    List (Event Change × Option String) → List (Feedback × Session MemoryState)
  | [] => []
  | (e, selected) :: events =>
    handle (guided mint window selected) s e ::
      guidedTranscript mint window (handle (guided mint window selected) s e).2 events

/-! ### Runs without secrets -/

theorem imports_service (key : String) (m : MemoryState) :
    (service mint window).imports key m = openSession (m.imported? key) m := by
  unfold WalletService.imports imported?
  split
  · rfl
  · exact importWallet_eq_openSession _ m

theorem imports_guided (selected : Option String) (m : MemoryState) :
    (guided mint window selected).imports redactedKey m = openSession selected m :=
  if_neg (by decide)

theorem imports_redacted {selected : Option String} {key : String} {m : MemoryState}
    (h : selected = m.imported? key) :
    (guided (blank mint) window selected).imports redactedKey m.redacted =
      ((service mint window).imports key m).seenAs redacted id := by
  rw [imports_guided, imports_service, openSession_redacted, h]

/-- **Without the secrets an event comes to the same,** if the import selects the same wallet. -/
theorem handle_redacted (s : Session MemoryState) (e : Event Change) :
    handle (guided (blank mint) window (selection s e)) (s.redacted redacted) e.redacted =
      ((handle (service mint window) s e).1.redacted,
        (handle (service mint window) s e).2.redacted redacted) := by
  have hsvc := redacts_service mint window (selection s e)
  cases e with
  | act a =>
    have hp := Session.perform_redacted (s := s) hsvc a
      (by
        rintro key rfl
        exact imports_redacted rfl)
      (by
        rintro key rfl hw
        have hw : s.service.getWallet.outcome = .ok none := hw
        refine imports_redacted ?_
        rw [selection, hw]
        rfl)
    simp only [Event.redacted, handle, hp]
    cases (s.perform (service mint window) a).1 <;> rfl
  | outside k =>
    cases k with
    | command c =>
      show (Feedback.nothing, Session.onService (·.apply c.redacted) (s.redacted redacted)) = _
      simp only [Session.onService, Session.redacted, ← apply_redacted]
      rfl
    | call c =>
      have hc := hsvc.call c (m := s.service) (by
        rintro key rfl
        show openSession _ _ = (importWallet key s.service).seenAs redacted id
        rw [importWallet_eq_openSession, openSession_redacted]
        rfl)
      show (Feedback.answer _, _) = _
      rw [Session.ask_redacted hc]
      rfl
  | readerLeaves => rfl

theorem transcript_redacted (s : Session MemoryState) (events : List (Event Change)) :
    guidedTranscript (blank mint) window (s.redacted redacted)
        ((events.map Event.redacted).zip (selections mint window s events)) =
      (transcript mint window s events).map fun x => (x.1.redacted, x.2.redacted redacted) := by
  induction events generalizing s with
  | nil => rfl
  | cons e events ih =>
    simp only [List.map_cons, selections, List.zip_cons_cons, guidedTranscript, transcript,
      handle_redacted]
    exact congrArg _ (ih _)

/-- **Secrets do not leak.** Two runs give back the same and look the same at every point if they
start alike, go through the same events over wallets with the same addresses, and import the same
wallets, whatever the secrets of these are. -/
theorem transcript_alike (window : Nat) {s t : Session MemoryState}
    {events events' : List (Event Change)}
    (hmint : ∀ n, (mint n).address = (mint' n).address)
    (hstart : s.redacted redacted = t.redacted redacted)
    (hevents : events.map Event.redacted = events'.map Event.redacted)
    (hselections : selections mint window s events = selections mint' window t events') :
    List.Forall₂ (fun x y => x.1.redacted = y.1.redacted ∧ x.2.LooksLike y.2)
      (transcript mint window s events) (transcript mint' window t events') := by
  have hblank : blank mint = blank mint' := by
    funext n
    rw [blank, blank, WalletExport.redacted, WalletExport.redacted, hmint n]
  -- Both runs are the same one without their secrets.
  have hsame : (transcript mint window s events).map
        (fun x => (x.1.redacted, x.2.redacted redacted)) =
      (transcript mint' window t events').map fun x => (x.1.redacted, x.2.redacted redacted) := by
    rw [← transcript_redacted, ← transcript_redacted, hblank, hstart, hevents, hselections]
  rw [← List.forall₂_eq_eq_eq, List.forall₂_map_left_iff, List.forall₂_map_right_iff] at hsame
  refine hsame.imp fun x y h => ?_
  exact ⟨congrArg Prod.fst h, Session.looksLike_of_redacted_eq (congrArg Prod.snd h)⟩

/-- One run imports a wallet by its key, the other by its phrase. Both try a key before that belongs
to no wallet, and both make a wallet afterwards. -/
theorem transcript_alike_import :
    let s : Session MemoryState := .start ⟨6, by decide⟩ {}
    let mint (_ : Nat) : WalletExport := ⟨"B", "ab", "acid amber"⟩
    let mint' (_ : Nat) : WalletExport := ⟨"B", "cd", "iris"⟩
    let events (e : WalletExport) (wrong key : String) : List (Event Change) :=
      [.outside (.command (.addWallet e)), .act (.importWallet wrong),
        .act (.importOnStartup key), .act .createWallet]
    let first := events ⟨"A", "12", "nova"⟩ "zephyr" " 0x12"
    let second := events ⟨"A", "9F", "lumen  mesa"⟩ " " "Lumen mesa "
    selections mint 50 s first = [none, none, some "A", none] ∧
      List.Forall₂ (fun x y => x.1.redacted = y.1.redacted ∧ x.2.LooksLike y.2)
        (transcript mint 50 s first) (transcript mint' 50 s second) := by
  intro s mint mint' events first second
  have hmint : ∀ n, (mint n).address = (mint' n).address := fun _ => rfl
  have hevents : first.map Event.redacted = second.map Event.redacted := by rfl
  have hfirst : selections mint 50 s first = [none, none, some "A", none] := by rfl
  have hsecond : selections mint' 50 s second = [none, none, some "A", none] := by rfl
  exact ⟨hfirst, transcript_alike 50 hmint rfl hevents (hfirst.trans hsecond.symm)⟩

end MemoryState

end WalletDashboard
