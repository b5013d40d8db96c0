import SessionGate.Proofs.Capability.Entries
import SessionGate.Proofs.CommandLine.Flag
import SessionGate.Proofs.Host.Answer

/-!
# What the command line changes on the wire

Of all that a command line says, and of all that a client sends, one flag reaches the announcement:
the one for signature help.

- `Document.lookup_handshakeResult`: where the entries of a document stand in the answer to a
  handshake.
- `Json.AgreesButForSignatureHelp`: answers that announce the same, one family aside, and name the
  same server.
- `answers_of_arguments`: the answers of a host, for any accepted command line and any messages.
-/

namespace SessionGate

namespace Document

/-- The announced entries stand in the answer to a handshake under the key of the capabilities. -/
theorem lookup_handshakeResult (d : Document) (key : String) :
    (handshakeResult d).lookup ["capabilities", key] = d.toJson.get? key := by
  have hcapabilities : (handshakeResult d).get? "capabilities" = some d.toJson := by
    rw [handshakeResult_eq]
    rfl
  rw [Json.lookup_cons, hcapabilities, Option.bind_some, Json.lookup_cons]
  simp

/-- Every answer to a handshake names the same server. -/
theorem get?_handshakeResult (d e : Document) :
    (handshakeResult d).get? "serverInfo" = (handshakeResult e).get? "serverInfo" := by
  rw [handshakeResult_eq, handshakeResult_eq]
  rfl

end Document

/-! ## From arguments to switches -/

/-- What is announced under options. -/
def Options.announcement (tag : String) (o : Options) : Document :=
  Document.build (Provider.standard tag) o.settings.overrides

/-- Signature help is announced exactly under options that ask for it. -/
theorem Options.isSome_signatureHelp_iff (tag : String) (o : Options) :
    ((o.announcement tag).toJson.get? "signatureHelpProvider").isSome = true ↔
      o.signatureHelp = true := by
  show ((o.announcement tag).toJson.get? Feature.signatureHelp.key).isSome = true ↔ _
  rw [Document.get?_toJson, announcement, entry?_build_standard, choice_settings, if_pos rfl]
  cases o.signatureHelp <;> simp

/-- Of another family the same is announced under all options. -/
theorem Options.get?_announcement (tag : String) (o p : Options) {key : String}
    (hkey : key ≠ "signatureHelpProvider") :
    (o.announcement tag).toJson.get? key = (p.announcement tag).toJson.get? key := by
  refine Document.get?_toJson_congr fun f hf => ?_
  have hother : f ≠ .signatureHelp := by
    rintro rfl
    exact hkey hf.symm
  rw [announcement, announcement, entry?_build_standard, entry?_build_standard, choice_settings,
    choice_settings, if_neg hother, if_neg hother]

/-! ## Answers on the wire -/

/-- Answers to handshakes that announce the same, signature help aside, and name the same server. -/
structure Json.AgreesButForSignatureHelp (v w : Json) : Prop where
  capabilities : ∀ key, key ≠ "signatureHelpProvider" →
    v.lookup ["capabilities", key] = w.lookup ["capabilities", key]
  server : v.get? "serverInfo" = w.get? "serverInfo"

namespace Host

/-- **One flag reaches the wire.** Take a command line that is accepted, the host for it and any
messages. An answered handshake announces signature help exactly if the flag for it is among the
arguments. In everything else it agrees with any answer, to any messages, of a host of any options
in a process of the same tag; in particular with those of the host for no arguments at all. -/
theorem answers_of_arguments (tag : String) {arguments : List String} {o : Options}
    (ho : Options.parse arguments = .ok o) (ds : List Delivery) :
    (∀ x ∈ (Program.hostOf tag o.settings).log ds, x.IsOpening → ∃ v, x.result? = some v ∧
      ((v.lookup ["capabilities", "signatureHelpProvider"]).isSome = true ↔
        "--enable-signature-help" ∈ arguments)) ∧
    (∀ (p : Options) (es : List Delivery), ∀ x ∈ (Program.hostOf tag o.settings).log ds,
      ∀ y ∈ (Program.hostOf tag p.settings).log es, x.IsOpening → y.IsOpening →
        ∃ v w, x.result? = some v ∧ y.result? = some w ∧ v.AgreesButForSignatureHelp w) ∧
    Options.parse [] = .ok {} := by
  have hanswer {o : Options} {ds : List Delivery} {x : Exchange}
      (hx : x ∈ (Program.hostOf tag o.settings).log ds) (hopening : x.IsOpening) :
      x.result? = some (handshakeResult (o.announcement tag)) :=
    result?_of_mem_log (coherent_hostOf tag o.settings) hx hopening
  refine ⟨fun x hx hopening => ⟨_, hanswer hx hopening, ?_⟩,
    fun p es x hx y hy hox hoy => ⟨_, _, hanswer hx hox, hanswer hy hoy, ?_⟩, rfl⟩
  · rw [Document.lookup_handshakeResult, Options.isSome_signatureHelp_iff,
      Options.signatureHelp_parse_iff ho]
    rfl
  · refine ⟨fun key hkey => ?_, Document.get?_handshakeResult _ _⟩
    rw [Document.lookup_handshakeResult, Document.lookup_handshakeResult]
    exact Options.get?_announcement tag o p hkey

/-- The flag among other options, and an answer under it against one without any arguments. -/
theorem answers_with_flag :
    Options.parse ["--no-node", "--log-level", "debug", "--enable-signature-help"]
        = .ok { logLevel := some "debug", withoutNode := true, signatureHelp := true } ∧
      ((Program.hostOf "7" (Options.settings
          { logLevel := some "debug", withoutNode := true, signatureHelp := true })).exchange
        (.handshake (some (.int 1)) "file:///srv/app")).IsOpening ∧
      ((Program.hostOf "7" (Options.settings {})).exchange
        (.handshake (some (.int 9)) "")).IsOpening ∧
      (∃ v, ((Program.hostOf "7" (Options.settings
          { logLevel := some "debug", withoutNode := true, signatureHelp := true })).exchange
        (.handshake (some (.int 1)) "file:///srv/app")).result? = some v ∧
        ((v.lookup ["capabilities", "signatureHelpProvider"]).isSome = true ↔
          "--enable-signature-help" ∈
            ["--no-node", "--log-level", "debug", "--enable-signature-help"])) ∧
      ∃ v w, ((Program.hostOf "7" (Options.settings
          { logLevel := some "debug", withoutNode := true, signatureHelp := true })).exchange
        (.handshake (some (.int 1)) "file:///srv/app")).result? = some v ∧
        ((Program.hostOf "7" (Options.settings {})).exchange
          (.handshake (some (.int 9)) "")).result? = some w ∧
        v.AgreesButForSignatureHelp w := by
  have hflag : Options.parse ["--no-node", "--log-level", "debug", "--enable-signature-help"]
      = .ok { logLevel := some "debug", withoutNode := true, signatureHelp := true } := rfl
  have hopening : ((Program.hostOf "7" (Options.settings
      { logLevel := some "debug", withoutNode := true, signatureHelp := true })).exchange
        (.handshake (some (.int 1)) "file:///srv/app")).IsOpening := by decide
  have hplain : ((Program.hostOf "7" (Options.settings {})).exchange
      (.handshake (some (.int 9)) "")).IsOpening := by decide
  obtain ⟨hcarries, hagree, -⟩ := answers_of_arguments "7" hflag
    [.handshake (some (.int 1)) "file:///srv/app"]
  exact ⟨hflag, hopening, hplain, hcarries _ List.mem_cons_self hopening,
    hagree {} [.handshake (some (.int 9)) ""] _ List.mem_cons_self _ List.mem_cons_self hopening
      hplain⟩

end Host

end SessionGate
