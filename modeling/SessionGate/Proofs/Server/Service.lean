import SessionGate.Proofs.Host.ExitCode
import SessionGate.Proofs.Index.Listing
import SessionGate.Proofs.Index.Once
import SessionGate.Proofs.Node.Running
import SessionGate.Proofs.Session.LocalPath

/-!
# One session, one node, one index

A server is its host, and the host does not see who does the work that it asks for. So what is known
of the messages of a host holds of a server; and as a host asks for the work of a session once, a
server starts at most one node and makes at most one index, whatever it is sent.

- `Server.run_host`: the host of a server, and what it gives out, are those of the host alone.
- `Server.run_of_quiet`, `Server.take_of_completes`: messages that ask for nothing, and the one that
  asks for the work of the session; `Server.run_of_startsAt`: a run that is cut at it.
- `Server.nodeEvents`: what happens to the node, from the first message to the end.
- `Indexer.mem_files_start_iff`: the files of an index.
- `Server.serves_one_session`: every run.
-/

namespace SessionGate

/-- A message as it reaches the host. -/
def Arrival.delivery (a : Arrival) : Delivery :=
  ⟨a.message, a.world.surroundings⟩

namespace Server

variable {s : Server} {a : Arrival} {as : List Arrival} {r : Record}

@[simp] theorem run_nil (s : Server) : s.run [] = ([], s) := rfl

@[simp] theorem run_cons (s : Server) (a : Arrival) (as : List Arrival) :
    s.run (a :: as)
      = ((s.take a).1 :: ((s.take a).2.run as).1, ((s.take a).2.run as).2) := rfl

theorem run_append (s : Server) (as bs : List Arrival) :
    s.run (as ++ bs)
      = ((s.run as).1 ++ ((s.run as).2.run bs).1, ((s.run as).2.run bs).2) := by
  induction as generalizing s with
  | nil => rfl
  | cons a as ih => rw [List.cons_append, run_cons, ih, run_cons, List.cons_append]

/-! ## The host of a server -/

theorem host_hand (w : World) (s : Server) (t : Trigger) : (s.hand w t).1.host = s.host := by
  cases t <;> rfl

theorem host_handAll (w : World) (s : Server) (ts : List Trigger) :
    (s.handAll w ts).1.host = s.host := by
  induction ts generalizing s with
  | nil => rfl
  | cons t ts ih => exact (ih (s.hand w t).1).trans (host_hand w s t)

/-- The work that a message asks for is handed on behind the host. -/
theorem take_eq (s : Server) (a : Arrival) :
    s.take a =
      let handed := handAll a.world { s with host := (s.host.receive a.delivery).1 }
        (s.host.exchange a.delivery).triggers
      (⟨(s.host.exchange a.delivery).emission, handed.2⟩, handed.1) :=
  rfl

theorem host_take (s : Server) (a : Arrival) :
    (s.take a).2.host = (s.host.receive a.delivery).1 :=
  host_handAll ..

/-- Its client cannot tell a server from its host. -/
theorem run_host (s : Server) (as : List Arrival) :
    (s.run as).1.map Step.emission
        = (s.host.log (as.map Arrival.delivery)).map Exchange.emission ∧
      (s.run as).2.host = s.host.after (as.map Arrival.delivery) := by
  induction as generalizing s with
  | nil => exact ⟨rfl, rfl⟩
  | cons a as ih =>
    obtain ⟨hemissions, hlast⟩ := ih (s.take a).2
    rw [host_take] at hemissions hlast
    exact ⟨congrArg ((s.host.exchange a.delivery).emission :: ·) hemissions, hlast⟩

/-! ## What is handed on -/

theorem take_of_isQuiet (h : (s.host.exchange a.delivery).IsQuiet) :
    (s.take a).1.events = [] ∧
      (s.take a).2 = { s with host := (s.host.receive a.delivery).1 } := by
  rw [take_eq, h.1]
  exact ⟨rfl, rfl⟩

/-- Messages that ask for nothing leave node and index as they are. -/
theorem run_of_quiet (h : ∀ x ∈ s.host.log (as.map Arrival.delivery), x.IsQuiet) :
    (s.run as).1.flatMap Step.events = [] ∧
      (s.run as).2 = { s with host := s.host.after (as.map Arrival.delivery) } := by
  induction as generalizing s with
  | nil => exact ⟨rfl, rfl⟩
  | cons a as ih =>
    rw [List.map_cons, Host.log_cons, List.forall_mem_cons] at h
    obtain ⟨hevents, htaken⟩ := take_of_isQuiet h.1
    have hrest : ∀ x ∈ (s.take a).2.host.log (as.map Arrival.delivery), x.IsQuiet := by
      rw [host_take]
      exact h.2
    obtain ⟨hmore, hlast⟩ := ih hrest
    rw [run_cons, List.flatMap_cons, hevents, hmore, hlast, htaken]
    exact ⟨rfl, rfl⟩

/-- The message that completes the handshake starts node and index. -/
theorem take_of_completes (h : Host.Completes (s.host.exchange a.delivery) r) :
    let started := s.node.start (NodeName.forRoot applicationName r.root) a.world.startsNode
    (s.take a).1.events = started.2 ∧
      (s.take a).2 = ⟨(s.host.receive a.delivery).1,
        s.indexer.start a.world.files a.world.working r, started.1⟩ := by
  rw [take_eq, h.triggers]
  exact ⟨List.append_nil _, rfl⟩

/-- A run that is cut at the message that completes the handshake: node and index are started by
that message, and left alone after it. -/
theorem run_of_startsAt {earlier later : List Arrival}
    (h : s.host.StartsAt (earlier.map Arrival.delivery) a.delivery (later.map Arrival.delivery) r) :
    let started := s.node.start (NodeName.forRoot applicationName r.root) a.world.startsNode
    let whole := s.run (earlier ++ a :: later)
    whole.1.flatMap Step.events = started.2 ∧
      whole.2.indexer = s.indexer.start a.world.files a.world.working r ∧
      whole.2.node = started.1 := by
  intro started whole
  have hhost : (s.run earlier).2.host = s.host.after (earlier.map Arrival.delivery) :=
    (s.run_host earlier).2
  obtain ⟨hnothing, hready⟩ := run_of_quiet h.before
  have hcompletes := h.completes
  rw [← hhost] at hcompletes
  obtain ⟨hevents, htaken⟩ := take_of_completes hcompletes
  have hrest : ∀ x ∈ ((s.run earlier).2.take a).2.host.log (later.map Arrival.delivery),
      x.IsQuiet := by
    have hbehind := h.behind
    rw [Host.after_append] at hbehind
    rw [host_take, hhost]
    exact hbehind
  obtain ⟨hmore, hlast⟩ := run_of_quiet hrest
  rw [hready] at hevents htaken
  refine ⟨?_, ?_, ?_⟩
  · show (s.run (earlier ++ a :: later)).1.flatMap Step.events = started.2
    rw [run_append, run_cons, List.flatMap_append, List.flatMap_cons, hnothing, hmore, hready,
      hevents, List.nil_append, List.append_nil]
  · show (s.run (earlier ++ a :: later)).2.indexer = _
    rw [run_append, run_cons, hlast, hready, htaken]
  · show (s.run (earlier ++ a :: later)).2.node = started.1
    rw [run_append, run_cons, hlast, hready, htaken]

/-! ## The node of a run -/

/-- What happens to the node, from the first message to the end. -/
def nodeEvents (s : Server) (as : List Arrival) : List NodeEvent :=
  (s.run as).1.flatMap Step.events ++ (s.run as).2.close.events

theorem nodeEvents_of_quiet (hidle : s.node.isRunning = false)
    (h : ∀ x ∈ s.host.log (as.map Arrival.delivery), x.IsQuiet) : s.nodeEvents as = [] := by
  obtain ⟨hevents, hlast⟩ := run_of_quiet h
  rw [nodeEvents, hevents, hlast, List.nil_append]
  show s.node.stop.2 = []
  rw [NodeManager.stop_of_not_isRunning hidle]

end Server

/-! ## The files of an index -/

/-- The first session that counts is indexed: the files are those that chains of names lead to from
its root, which is never taken for anything but a directory. -/
theorem Indexer.mem_files_start_iff {files : FileTree} (hproper : files.IsProper)
    {working place : List Bytes} {r : Record} {path : Path} {es : List (Bytes × FileTree)}
    (hcounts : (Ask.mk files working r).Counts path)
    (hes : FileTree.resolve? files working path = some (place, .directory es)) (p : Path) :
    p ∈ (new.start files working r).files ↔ ∃ above name, p = path.chain (above ++ [name]) ∧
      Walk.IsListed files working (.start files working place path) above name := by
  obtain ⟨rest, rfl⟩ := Root.isAbsolute_of_filePath? hcounts.2
  have hplain : Path.isStandardInput (Path.slash :: rest) = false :=
    Path.isStandardInput_of_isAbsolute rfl
  have hok := sourceFiles_eq_ok hes
  have hstart : new.start files working r
      = ⟨true, (Ask.mk files working r).found (Path.slash :: rest)⟩ := ask_of_counts hcounts
  rw [hstart, Ask.found, hok]
  exact (mem_sourceFiles_iff hproper hes hok p).trans (and_iff_right hplain)

namespace Server

/-! ## Runs of a server -/

/-- **A server serves one session.** Whatever its client sends and whatever happens around it, the
client sees what the host alone would show it. Either no message asks for any work, and then nothing
is indexed and no node is started; or one does, in the world that it arrives in, and then the root
of the session is indexed in the files as they are then, and one node is started if the settings
call for one and its program can be started. A node that has been started is stopped in the end, and
none runs any more. The exit code is zero exactly if a shutdown has been answered. -/
theorem serves_one_session (tag : String) (settings : Settings) (as : List Arrival) :
    let server := Program.serverOf tag settings
    let log := server.host.log (as.map Arrival.delivery)
    let last := (server.run as).2
    ((server.run as).1.map Step.emission = log.map Exchange.emission ∧
        last.host = server.host.after (as.map Arrival.delivery)) ∧
      ((∀ x ∈ log, x.IsQuiet) ∧ last.indexer = .new ∧ server.nodeEvents as = [] ∨
        ∃ earlier a later r, as = earlier ++ a :: later ∧
          server.host.StartsAt (earlier.map Arrival.delivery) a.delivery
            (later.map Arrival.delivery) r ∧
          last.indexer = Indexer.new.start a.world.files a.world.working r ∧
          server.nodeEvents as =
            if settings.node.isEnabled && a.world.startsNode then
              [.spawned (NodeName.forRoot applicationName r.root),
                .stopped (NodeName.forRoot applicationName r.root)]
            else []) ∧
      last.close.server.node.isRunning = false ∧
      ((Program.serve server as).2 = 0 ↔ ∃ x ∈ log, x.IsShutdown) := by
  intro server log last
  have hhost := server.run_host as
  have hcode : (Program.serve server as).2 = 0 ↔ ∃ x ∈ log, x.IsShutdown := by
    show last.host.controller.exitCode.1 = 0 ↔ _
    rw [Controller.exitCode_eq_zero_iff, hhost.2]
    exact Host.shuttingDown_hostOf_iff tag settings _
  refine ⟨hhost, ?_, last.node.isRunning_stop, hcode⟩
  have hcoherent : server.host.Coherent := Host.coherent_hostOf tag settings
  have hidle : server.node.isRunning = false := NodeManager.isRunning_ofSetting settings.node
  rcases Host.cut_at_completion hcoherent (as.map Arrival.delivery) with hquiet |
    ⟨before, d, behind, r, hcut, hstarts⟩
  · refine .inl ⟨hquiet, ?_, nodeEvents_of_quiet hidle hquiet⟩
    rw [show last = _ from (run_of_quiet hquiet).2]
    rfl
  · -- the deliveries are cut where the arrivals are
    obtain ⟨earlier, rest, rfl, rfl, hrest⟩ := List.map_eq_append_iff.mp hcut
    obtain ⟨a, later, rfl, rfl, rfl⟩ := List.map_eq_cons_iff.mp hrest
    obtain ⟨hevents, hindexer, hnode⟩ := run_of_startsAt hstarts
    refine .inr ⟨earlier, a, later, r, rfl, hstarts, hindexer, ?_⟩
    show (server.run (earlier ++ a :: later)).1.flatMap Step.events
        ++ (server.run (earlier ++ a :: later)).2.node.stop.2 = _
    rw [hevents, hnode]
    exact NodeManager.start_stop_ofSetting ..

/-- A client that says twice that the handshake is complete, and leaves without a word. -/
example :
    let world : World := ⟨.lost "No such file or directory", .directory [], [], true⟩
    let arrivals : List Arrival :=
      [.handshake (some (.int 1)) "file:///srv/app", .bare "initialized" none (some .empty),
        .bare "initialized" none (some .empty)].map fun d : Delivery => ⟨d.message, world⟩
    (Program.serverOf "7" {}).nodeEvents arrivals
        = [.spawned "erlang_ls_app", .stopped "erlang_ls_app"] ∧
      (Program.serve (Program.serverOf "7" {}) arrivals).2 = 1 := by
  decide

end Server

end SessionGate
