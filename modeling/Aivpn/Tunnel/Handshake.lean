import Aivpn.Server.KeyAgreement

/-!
# The handshake of the Android tunnel

The tunnel waits for one datagram. `run_tunnel_android` leaves its waiting loop with whatever arrives
first and hands it to `process_server_hello_with_mdh_len`, whose error ends the tunnel. So a handshake
completes with a ServerHello of the server exactly if the first datagram decodes to a ServerHello
that leads to the same keys (`completesHandshake_iff`): that ServerHello itself or a copy of it
(`takesHello_of_genuine`), and no datagram in front.
-/

set_option autoImplicit false

namespace Aivpn

open Aivpn.Lib

namespace AndroidTunnel

section

variable (P : Primitives) (c : AndroidTunnel)

/-- The keys behind a ServerHello with the given key of the server. -/
def ratchetedKeys (serverEphPub : Key) : SessionKeys :=
  P.deriveSessionKeys (P.x25519 c.keypair.privateKeyBytes serverEphPub) (some c.keys.sessionKey)
    c.keypair.publicKeyBytes

/-- `process_server_hello_with_mdh_len` finds a ServerHello with the given key in the datagram. -/
def HelloIn (env : ClientEnv) (packet : Bytes) (serverEphPub : Key) : Prop :=
  ∃ decoded signature dh2,
    (decodePacketWithMdhLen P env.timeWindow packet c.keys RecvWindow.new
      defaultZeroMdh.length).1 = .ok decoded ∧
    decoded.header.innerType = .control ∧
    ControlPayload.decode decoded.payload = .ok (.serverHello serverEphPub signature) ∧
    P.computeShared c.keypair serverEphPub = .ok dh2

/-- The datagram is a ServerHello that leads to the keys behind the given one. -/
def TakesHello (env : ClientEnv) (packet : Bytes) (serverEphPub : Key) : Prop :=
  ∃ key, c.HelloIn P env packet key ∧ c.ratchetedKeys P key = c.ratchetedKeys P serverEphPub

/-- The datagram is a ServerHello that the server sends for the session of the client's init, with
the given key, and its tag is in reach of the client's search. -/
def GenuineHello (rng : Randomness) (env : ClientEnv) (packet : Bytes) (serverEphPub : Key) : Prop :=
  ∃ s t n, SendsHello P rng s packet t n ∧ s.keys = c.keys ∧ s.serverEphPub = some serverEphPub ∧
    s.serverHelloSignature ≠ none ∧
    (c.keys.tagSecret, n, t) ∈ RecvWindow.new.searched env.timeWindow c.keys.tagSecret

/-- The tunnel has completed the ratchet that `c` was waiting for with the given key. -/
def CompletedWith (serverEphPub : Key) (c' : AndroidTunnel) : Prop :=
  c'.stage = .forwarding ∧ c'.keys = c.ratchetedKeys P serverEphPub

/-- The first genuine ServerHello among the datagrams of a run completes the handshake. -/
def CompletesHandshake (rng : Randomness) (es : List (ClientEnv × Event)) : Prop :=
  ∀ pre env hello post serverEphPub, es = pre ++ (env, .receive hello) :: post →
    c.GenuineHello P rng env hello serverEphPub →
    (∀ env' packet key, (env', .receive packet) ∈ pre → ¬ c.GenuineHello P rng env' packet key) →
    c.CompletedWith P serverEphPub (runFrom (step P) c es)

/-- The first datagram of a run. -/
def firstDatagram : List (ClientEnv × Event) → Option (ClientEnv × Bytes)
  | [] => none
  | (env, .receive packet) :: _ => some (env, packet)
  | _ :: es => firstDatagram es

/-- The first datagram of a run is a ServerHello with the keys of the first genuine one. -/
def FirstIsHello (rng : Randomness) (es : List (ClientEnv × Event)) : Prop :=
  ∀ pre env hello post serverEphPub, es = pre ++ (env, .receive hello) :: post →
    c.GenuineHello P rng env hello serverEphPub →
    (∀ env' packet key, (env', .receive packet) ∈ pre → ¬ c.GenuineHello P rng env' packet key) →
    ∃ env' packet, firstDatagram es = some (env', packet) ∧ c.TakesHello P env' packet serverEphPub

end

/-- The socket works and the tunnel is not stopped, so that nothing but the datagrams decides. -/
def Undisturbed (e : ClientEnv × Event) : Prop :=
  match e.2 with
  | .retry => e.1.sendOk = true
  | .stop => False
  | _ => True

variable {P : Primitives} {rng : Randomness} {env : ClientEnv} {c : AndroidTunnel}

/-! ## The first datagram -/

/-- A datagram has at most one key of the server in it. -/
theorem HelloIn.unique {packet : Bytes} {key key' : Key} (h : c.HelloIn P env packet key)
    (h' : c.HelloIn P env packet key') : key = key' := by
  obtain ⟨decoded, _, _, hdec, -, hctl, -⟩ := h
  obtain ⟨decoded', _, _, hdec', -, hctl', -⟩ := h'
  obtain rfl := Except.ok.inj (hdec.symm.trans hdec')
  cases Except.ok.inj (hctl.symm.trans hctl')
  rfl

theorem HelloIn.process {packet : Bytes} {key : Key} (h : c.HelloIn P env packet key) :
    processServerHelloWithMdhLen P env.timeWindow packet c.keys c.keypair RecvWindow.new
      c.sendCounter defaultZeroMdh.length = (.ok (), c.ratchetedKeys P key, RecvWindow.new, 0) := by
  obtain ⟨decoded, signature, dh2, hdec, htype, hctl, hdh2⟩ := h
  unfold processServerHelloWithMdhLen
  rcases hresult : decodePacketWithMdhLen P env.timeWindow packet c.keys RecvWindow.new
    defaultZeroMdh.length with ⟨r, w⟩
  rw [hresult] at hdec
  obtain rfl : r = .ok decoded := hdec
  simp only [htype, ne_eq, not_true_eq_false, if_false, hctl, hdh2]
  rw [computeShared_eq hdh2]
  rfl

theorem helloIn_of_process {packet : Bytes} {keys : SessionKeys} {w : RecvWindow} {n : Nat}
    (h : processServerHelloWithMdhLen P env.timeWindow packet c.keys c.keypair RecvWindow.new
      c.sendCounter defaultZeroMdh.length = (.ok (), keys, w, n)) :
    ∃ key, c.HelloIn P env packet key := by
  unfold processServerHelloWithMdhLen at h
  rcases hdec : decodePacketWithMdhLen P env.timeWindow packet c.keys RecvWindow.new
    defaultZeroMdh.length with ⟨r, w'⟩
  rw [hdec] at h
  cases r with
  | error e => cases h
  | ok decoded =>
      simp only at h
      split_ifs at h with htype
      · cases h
      · split at h
        · cases h
        · next serverEphPub signature hctl =>
            split at h
            · cases h
            · next dh2 hdh2 =>
                exact ⟨serverEphPub, decoded, signature, dh2, by rw [hdec], not_not.1 htype, hctl,
                  hdh2⟩
        · cases h

/-- The first datagram completes the handshake or ends the tunnel. -/
theorem receiveHello_cases (P : Primitives) (env : ClientEnv) (packet : Bytes) (c : AndroidTunnel) :
    (∃ key, c.HelloIn P env packet key ∧ c.CompletedWith P key (receiveHello P env packet c)) ∨
      (∀ key, ¬ c.HelloIn P env packet key) ∧ (receiveHello P env packet c).stage = .finished := by
  by_cases hhello : ∃ key, c.HelloIn P env packet key
  · obtain ⟨key, hkey⟩ := hhello
    refine Or.inl ⟨key, hkey, ?_⟩
    unfold receiveHello
    rw [hkey.process]
    exact ⟨rfl, rfl⟩
  · refine Or.inr ⟨fun key hkey => hhello ⟨key, hkey⟩, ?_⟩
    unfold receiveHello
    rcases hprocess : processServerHelloWithMdhLen P env.timeWindow packet c.keys c.keypair
      RecvWindow.new c.sendCounter defaultZeroMdh.length with ⟨r, keys, w, n⟩
    cases r with
    | error e => rfl
    | ok u => exact absurd (helloIn_of_process hprocess) hhello

/-! ## Runs -/

/-- While it waits, the tunnel keeps its keys whatever else happens. -/
theorem step_waiting (hstage : c.stage = .handshake) {e : ClientEnv × Event} (he : Undisturbed e)
    (hevent : ∀ packet, e.2 ≠ .receive packet) :
    (step P c e).stage = .handshake ∧ (step P c e).keys = c.keys ∧
      (step P c e).keypair = c.keypair := by
  obtain ⟨env, event⟩ := e
  cases event with
  | begin => simp [step, hstage]
  | retry =>
      have hsend : env.sendOk = true := he
      simp only [step, if_pos hstage, sendHandshake, transmit, if_pos hsend]
      exact ⟨trivial, trivial, trivial⟩
  | data payload => simp [step, hstage]
  | keepalive => simp [step, hstage]
  | receive packet => exact absurd rfl (hevent packet)
  | stop => cases he

/-- Once it forwards, the tunnel stays with its keys. -/
theorem step_forwarding (hstage : c.stage = .forwarding) {e : ClientEnv × Event}
    (he : Undisturbed e) : (step P c e).stage = .forwarding ∧ (step P c e).keys = c.keys := by
  obtain ⟨env, event⟩ := e
  have hupload : ∀ innerType payload, (encryptUpload P env innerType payload c).stage =
      .forwarding ∧ (encryptUpload P env innerType payload c).keys = c.keys := by
    intro innerType payload
    unfold encryptUpload
    split
    · exact ⟨hstage, rfl⟩
    · simp only
      obtain ⟨-, hstage', hkeys, -⟩ := transmit_cases env _ _
      exact ⟨hstage'.trans hstage, hkeys⟩
  cases event with
  | begin => simp [step, hstage]
  | retry => simp [step, hstage]
  | data payload =>
      simp only [step, if_pos hstage]
      exact hupload _ _
  | keepalive =>
      simp only [step, if_pos hstage]
      exact hupload _ _
  -- a packet behind the handshake moves the window at most
  | receive packet =>
      simp only [step, hstage, reduceCtorEq, if_false, if_true]
      unfold receive
      dsimp only
      split
      · exact ⟨hstage, rfl⟩
      · split
        · exact ⟨hstage, rfl⟩
        · exact ⟨hstage, rfl⟩
  | stop => cases he

/-- A tunnel that has ended does not start again. -/
theorem step_finished (hstage : c.stage = .finished) (e : ClientEnv × Event) :
    (step P c e).stage = .finished := by
  obtain ⟨env, event⟩ := e
  cases event <;> simp [step, hstage]

/-- What the first datagram has decided stays. -/
theorem completedWith_of_run {c' : AndroidTunnel} {key : Key} (h : c.CompletedWith P key c')
    {es : List (ClientEnv × Event)} (hes : ∀ e ∈ es, Undisturbed e) :
    c.CompletedWith P key (runFrom (step P) c' es) := by
  have hstep : ∀ c' e, c.CompletedWith P key c' → Undisturbed e →
      c.CompletedWith P key (step P c' e) := by
    rintro c' e ⟨hstage, hkeys⟩ he
    obtain ⟨hstage', hkeys'⟩ := step_forwarding hstage he
    exact ⟨hstage', hkeys'.trans hkeys⟩
  exact runFrom_invariant_of_along hstep h (along_of_forall hes)

theorem runFrom_finished {c' : AndroidTunnel} (h : c'.stage = .finished)
    (es : List (ClientEnv × Event)) : (runFrom (step P) c' es).stage = .finished :=
  runFrom_invariant (fun (c : AndroidTunnel) e (hs : c.stage = .finished) => step_finished hs e) h es

/-- The predicates read the keys of the tunnel alone. -/
theorem predicates_congr {c' : AndroidTunnel} (hkeys : c'.keys = c.keys)
    (hkeypair : c'.keypair = c.keypair) (key : Key) :
    (∀ env packet, c'.TakesHello P env packet key ↔ c.TakesHello P env packet key) ∧
      ∀ last, c'.CompletedWith P key last ↔ c.CompletedWith P key last := by
  have hratchet : ∀ k, c'.ratchetedKeys P k = c.ratchetedKeys P k := by
    intro k
    unfold ratchetedKeys
    rw [hkeys, hkeypair]
  constructor
  · intro env packet
    unfold TakesHello HelloIn
    simp only [hkeys, hkeypair, hratchet]
  · intro last
    unfold CompletedWith
    rw [hratchet]

/-- A waiting tunnel completes with the keys of a ServerHello exactly if its first datagram is a
ServerHello with these keys. -/
theorem completedWith_iff {es : List (ClientEnv × Event)} (hstage : c.stage = .handshake)
    (hes : ∀ e ∈ es, Undisturbed e) (key : Key) :
    c.CompletedWith P key (runFrom (step P) c es) ↔
      ∃ env packet, firstDatagram es = some (env, packet) ∧ c.TakesHello P env packet key := by
  induction es generalizing c with
  | nil =>
      refine iff_of_false ?_ (by simp [firstDatagram])
      rintro ⟨hforwarding, -⟩
      cases hstage.symm.trans hforwarding
  | cons e es ih =>
      obtain ⟨he, hrest⟩ := List.forall_mem_cons.1 hes
      -- the first datagram decides: it is the `ServerHello` or ends the handshake
      by_cases hreceive : ∃ packet, e.2 = .receive packet
      · obtain ⟨env, event⟩ := e
        obtain ⟨packet, hevent⟩ := hreceive
        obtain rfl : event = .receive packet := hevent
        have hstep : step P c (env, .receive packet) = receiveHello P env packet c := if_pos hstage
        simp only [runFrom, hstep, firstDatagram, Option.some.injEq, Prod.mk.injEq]
        rcases receiveHello_cases P env packet c with ⟨found, hfound, hcompleted⟩ | ⟨hnone, hfinished⟩
        · obtain ⟨hforwarding, hkeys⟩ := completedWith_of_run hcompleted hrest
          constructor
          · rintro ⟨-, hkeys'⟩
            exact ⟨env, packet, ⟨rfl, rfl⟩, found, hfound, hkeys.symm.trans hkeys'⟩
          · rintro ⟨env', packet', ⟨rfl, rfl⟩, found', hfound', hsame⟩
            obtain rfl := hfound.unique hfound'
            exact ⟨hforwarding, hkeys.trans hsame⟩
        · refine iff_of_false ?_ ?_
          · rintro ⟨hforwarding, -⟩
            cases (runFrom_finished hfinished es).symm.trans hforwarding
          · rintro ⟨env', packet', ⟨rfl, rfl⟩, found, hfound, -⟩
            exact hnone found hfound
      -- before it, nothing happens that the handshake looks at
      · obtain ⟨hwaiting, hkeys, hkeypair⟩ :=
          step_waiting (P := P) hstage he fun packet hevent => hreceive ⟨packet, hevent⟩
        have hfirst : firstDatagram (e :: es) = firstDatagram es := by
          obtain ⟨env, event⟩ := e
          cases event with
          | receive packet => exact absurd ⟨packet, rfl⟩ hreceive
          | begin => rfl
          | retry => rfl
          | data payload => rfl
          | keepalive => rfl
          | stop => rfl
        obtain ⟨htakes, hcompleted⟩ := predicates_congr (P := P) hkeys hkeypair key
        have hnext := ih hwaiting hrest
        simp only [hcompleted, htakes] at hnext
        rw [hfirst]
        exact hnext

/-- The handshake completes with the first genuine ServerHello exactly if the first datagram is a
ServerHello with its keys. -/
theorem completesHandshake_iff (P : Primitives) (rng : Randomness) {c : AndroidTunnel}
    (hstage : c.stage = .handshake) {es : List (ClientEnv × Event)}
    (hes : ∀ e ∈ es, Undisturbed e) :
    c.CompletesHandshake P rng es ↔ c.FirstIsHello P rng es := by
  constructor
  · intro h pre env hello post key hsplit hgenuine hfirst
    exact (completedWith_iff hstage hes key).1 (h pre env hello post key hsplit hgenuine hfirst)
  · intro h pre env hello post key hsplit hgenuine hfirst
    exact (completedWith_iff hstage hes key).2 (h pre env hello post key hsplit hgenuine hfirst)

/-! ## Genuine ServerHellos -/

theorem decode_genuineHello {hello : Bytes} {key : Key}
    (h : c.GenuineHello P rng env hello key) (haead : SoundAead P c.keys.sessionKey)
    (htags : P.CollisionFree (RecvWindow.new.searched env.timeWindow c.keys.tagSecret)) :
    ∃ decoded signature, (decodePacketWithMdhLen P env.timeWindow hello c.keys RecvWindow.new
      defaultZeroMdh.length).1 = .ok decoded ∧ decoded.header.innerType = .control ∧
      ControlPayload.decode decoded.payload = .ok (.serverHello key signature) := by
  obtain ⟨s, t, n, hsends, hkeys, heph, hsig, hreach⟩ := h
  obtain ⟨signature, hsig⟩ := Option.ne_none_iff_exists'.1 hsig
  obtain ⟨padding, hpad, hd⟩ := hsends.bytes heph hsig
  rw [hkeys] at hd
  have hready : Ready P RecvWindow.new env.timeWindow c.keys.tagSecret n t := ⟨rfl, hreach, htags⟩
  exact ⟨_, signature, congrArg Prod.fst (decode_hello haead hready hpad hd), rfl,
    ControlPayload.decode_serverHello_encode ..⟩

/-- A genuine ServerHello is taken wherever it is the first datagram. -/
theorem takesHello_of_genuine {hello : Bytes} {key dh2 : Key}
    (h : c.GenuineHello P rng env hello key) (haead : SoundAead P c.keys.sessionKey)
    (htags : P.CollisionFree (RecvWindow.new.searched env.timeWindow c.keys.tagSecret))
    (hdh2 : P.computeShared c.keypair key = .ok dh2) : c.TakesHello P env hello key := by
  obtain ⟨decoded, signature, hdec, htype, hctl⟩ := decode_genuineHello h haead htags
  exact ⟨key, ⟨decoded, signature, dh2, hdec, htype, hctl, hdh2⟩, rfl⟩

/-- A datagram is the ServerHello of one key. -/
theorem GenuineHello.unique {hello : Bytes} {key key' : Key}
    (h : c.GenuineHello P rng env hello key) (h' : c.GenuineHello P rng env hello key')
    (haead : SoundAead P c.keys.sessionKey)
    (htags : P.CollisionFree (RecvWindow.new.searched env.timeWindow c.keys.tagSecret)) :
    key = key' := by
  obtain ⟨decoded, _, hdec, -, hctl⟩ := decode_genuineHello h haead htags
  obtain ⟨decoded', _, hdec', -, hctl'⟩ := decode_genuineHello h' haead htags
  obtain rfl := Except.ok.inj (hdec.symm.trans hdec')
  cases Except.ok.inj (hctl.symm.trans hctl')
  rfl

/-! ## Data before the ServerHello -/

/-- The environment of the tunnel in the same time window. -/
def sampleTunnelEnv : ClientEnv := ⟨sampleEnv 100, sampleDraw, fun _ => none⟩

/-- A tunnel to the sample server that has sent its init. -/
def sampleWaiting : AndroidTunnel :=
  step samplePrimitives (new sampleServerKeys.publicKeyBytes none sampleClientKeys)
    (sampleTunnelEnv, .begin)

/-- A data packet of the server under the first keys. -/
def sampleEarlyData : Bytes :=
  assemble samplePrimitives 100 sampleWaiting.keys 1 [0, 0, 0, 0]
    (padPlaintext (buildInnerPacket .data 0 [0x45]) [])

theorem sampleOfferHello_genuine : sampleWaiting.GenuineHello samplePrimitives sampleRandomness
    sampleTunnelEnv sampleOfferHello
    (samplePrimitives.fromPrivateKey (sampleRandomness.serverEph 0)).publicKeyBytes := by
  refine ⟨_, _, _, sampleOffer_sendsHello, ?_, ?_, ?_, ?_⟩
  · decide +kernel
  · decide +kernel
  · decide +kernel
  · exact (sample_ready _ (n := 0) (by decide)).reach

/-- A ServerHello is a control packet. -/
theorem sampleEarlyData_not_genuine (env : ClientEnv) (key : Key) :
    ¬ sampleWaiting.GenuineHello samplePrimitives sampleRandomness env sampleEarlyData key := by
  rintro ⟨s, t, n, hsends, -, heph, hsig, -⟩
  obtain ⟨signature, hsig⟩ := Option.ne_none_iff_exists'.1 hsig
  obtain ⟨padding, -, hd⟩ := hsends.bytes heph hsig
  have hdata : ((sampleEarlyData.drop (tagSize + 4)).drop 2).take 2 = [1, 0] := by decide +kernel
  -- the inner type stands behind the tag, the header and the length of the padding
  have hdrop : sampleEarlyData.drop (tagSize + 4) = samplePrimitives.encrypt s.keys.sessionKey
      (counterToNonce n) (padPlaintext ((InnerHeader.mk .control 0).encode ++
        (ControlPayload.serverHello key signature).encode) padding) := by
    rw [hd]
    exact drop_assemble samplePrimitives t s.keys n [0, 0, 0, 0] _
  rw [hdrop] at hdata
  simp only [samplePrimitives, padPlaintext, InnerHeader.encode, u16Bytes, List.append_assoc] at hdata
  rw [List.drop_left' (length_leBytes 2 _), List.take_left' (length_leBytes 2 _)] at hdata
  exact absurd hdata (by decide)

/-- The tunnel ends with the data packet, although the ServerHello is next. -/
theorem completesHandshake_violated :
    ¬ sampleWaiting.CompletesHandshake samplePrimitives sampleRandomness
      [(sampleTunnelEnv, .receive sampleEarlyData), (sampleTunnelEnv, .receive sampleOfferHello)] := by
  intro h
  have hfinished : (runFrom (step samplePrimitives) sampleWaiting
      [(sampleTunnelEnv, .receive sampleEarlyData),
        (sampleTunnelEnv, .receive sampleOfferHello)]).stage = .finished := by
    decide +kernel
  have hcompleted := h [(sampleTunnelEnv, .receive sampleEarlyData)] sampleTunnelEnv sampleOfferHello
    [] _ rfl sampleOfferHello_genuine ?_
  · cases hfinished.symm.trans hcompleted.1
  · intro env packet key hmem
    rw [List.mem_singleton] at hmem
    cases hmem
    exact sampleEarlyData_not_genuine _ _

/-- Where the ServerHello comes first, the handshake of the sample completes. -/
theorem sampleWaiting_completes :
    sampleWaiting.CompletesHandshake samplePrimitives sampleRandomness
      [(sampleTunnelEnv, .receive sampleOfferHello), (sampleTunnelEnv, .receive sampleEarlyData)] := by
  refine (completesHandshake_iff samplePrimitives sampleRandomness ?_ ?_).2 ?_
  · decide +kernel
  · simp [Undisturbed]
  · intro pre env hello post key hsplit hgenuine hfirst
    refine ⟨sampleTunnelEnv, sampleOfferHello, rfl, ?_⟩
    have htags := (sample_ready sampleWaiting.keys.tagSecret (n := 0) (by decide)).tags
    cases pre with
    | nil =>
        rw [List.nil_append, List.cons.injEq] at hsplit
        cases hsplit.1
        obtain rfl := hgenuine.unique sampleOfferHello_genuine (samplePrimitives_soundAead _) htags
        have hdh2 : samplePrimitives.computeShared sampleWaiting.keypair
            (samplePrimitives.fromPrivateKey (sampleRandomness.serverEph 0)).publicKeyBytes =
            .ok (samplePrimitives.x25519 sampleWaiting.keypair.privateKeyBytes
              (samplePrimitives.fromPrivateKey (sampleRandomness.serverEph 0)).publicKeyBytes) := by
          decide +kernel
        exact takesHello_of_genuine hgenuine (samplePrimitives_soundAead _) htags hdh2
    | cons e pre =>
        rw [List.cons_append, List.cons.injEq] at hsplit
        obtain rfl := hsplit.1
        exact absurd sampleOfferHello_genuine (hfirst _ _ _ List.mem_cons_self)

end AndroidTunnel

end Aivpn
