import OpenIntentRouter.Services.MemoryCandidatePolicy

/-!
# What an accepted candidate has gone through

Every path to an accepted decision leads through the hard rules, the semantics
and the thresholds, in this order; after a verifier's confirmation the hard rules
have been run once more, and only the certainty of the semantics was taken as
given. A deletion is not searched for sensitive data: a memory that holds some
can be deleted (`sensitive_delete_accepted`).

* `Clear`: what the rules let through; `evaluateHardRules_open` says so of an
  evaluation that nothing has ended;
* `Accepted`: what an accepted decision of a conversation rests on.
-/
namespace OpenIntentRouter.Candidates

open Core Core.Except Core.Text Schemas Services

/-! ## The hard rules -/

variable {hard : HardRuleEvaluation} {current : Option MemoryItem} {outcome : Option String}

section HardRules

variable {py : Python} {now : Instant} {reads : Reads} {job : FormationJob}
  {candidate : FormationCandidate} {turns : List FormationTurn}

/-- The rules before the repository is asked for the memory let the candidate through. -/
structure Clear (py : Python) (reads : Reads) (job : FormationJob) (candidate : FormationCandidate)
    (turns : List FormationTurn) (memoryKey : String) : Prop where
  key : buildMemoryKey py job.tenantId job.userId candidate.scope
    (match candidate.semantic with
      | some semantic => some semantic.slot
      | none => candidate.memoryKeyHint)
    candidate.structuredValue (trustedCanonical job.trigger) = .ok memoryKey
  structured : validateStructuredCandidate py job candidate memoryKey = .ok none
  identity : identityMismatch job candidate = .ok false
  scope : allowedScopes.contains candidate.scope = true
  evidence : validateEvidence job candidate turns = none
  recalled : isRecalledMemoryRepetition py reads job candidate turns = false
  clean : candidate.proposedOperation ≠ .delete → containsSensitiveData py candidate = false

theorem refusal_ok {memoryKey : String} :
    refusal py reads job candidate turns = .ok (memoryKey, none) ↔
      Clear py reads job candidate turns memoryKey := by
  unfold refusal
  rw [bind_eq_ok]
  constructor
  · rintro ⟨key, hkey, h⟩
    obtain ⟨structured, hstructured, h⟩ := bind_eq_ok.1 h
    cases structured with
    | some reason => cases h
    | none =>
      obtain ⟨mismatch, hmismatch, h⟩ := bind_eq_ok.1 h
      cases mismatch with
      | true => cases h
      | false =>
        simp only [Bool.false_eq_true, if_false] at h
        split at h
        · cases h
        · next hscope =>
          split at h
          · cases h
          · next hevidence =>
            split at h
            · cases h
            · next hrecalled =>
              split at h
              · cases h
              · next hclean =>
                cases h
                refine ⟨hkey, hstructured, hmismatch, ?_, hevidence, ?_, fun hop => ?_⟩
                · simpa using hscope
                · simpa using hrecalled
                · simpa [hop] using hclean
  · intro h
    refine ⟨memoryKey, h.key, ?_⟩
    have hclean : (decide (candidate.proposedOperation ≠ .delete) &&
        containsSensitiveData py candidate) = false := by
      by_cases hop : candidate.proposedOperation = .delete
      · simp [hop]
      · simp [h.clean hop]
    rw [h.structured]
    simp only [ok_bind, h.identity, h.scope, h.evidence, h.recalled, hclean]
    rfl

/-- An accepted end of the hard rules is a canonical delete. -/
theorem canonicalDelete_accepted {terminal : HardRuleTerminal}
    (h : canonicalDelete now job candidate current = .ok (some terminal))
    (_ : terminal.status = .accepted) : job.trigger = .consolidation ∨ job.trigger = .sweeper := by
  unfold canonicalDelete at h
  split at h
  · cases h
  · split at h
    · cases h
    · obtain ⟨duplicate, hduplicate, h⟩ := bind_eq_ok.1 h
      split at h
      · next hd =>
        unfold deletesDuplicate at hduplicate
        split at hduplicate
        · next hc =>
          simp only [Bool.and_eq_true, decide_eq_true_eq] at hc
          exact .inl hc.1
        · cases hduplicate
          cases hd
      · split at h
        · next hs =>
          simp only [Bool.and_eq_true, decide_eq_true_eq] at hs
          exact .inr hs.1
        · cases h

structure About (py : Python) (now : Instant) (job : FormationJob) (candidate : FormationCandidate)
    (memoryKey : String) (current : Option MemoryItem) (hard : HardRuleEvaluation) : Prop where
  same : hard.candidate = candidate
  key : hard.memoryKey = memoryKey
  hash : hard.candidateHash = buildCandidateHash py candidate
  found : hard.current = current
  ended : ∀ terminal, hard.terminal = some terminal → terminal.status = .accepted →
    job.trigger = .consolidation ∨ job.trigger = .sweeper
  kept : hard.terminal = none → candidate.proposedOperation ≠ .ignore ∧
    hard.deleteAuthorized = authorizedUserDelete candidate current

theorem aboutCurrent_about {memoryKey : String}
    (h : aboutCurrent py now job candidate memoryKey (buildCandidateHash py candidate) current =
      .ok hard) : About py now job candidate memoryKey current hard := by
  have hends : ∀ terminal : HardRuleTerminal, terminal.status ≠ .accepted →
      About py now job candidate memoryKey current
        (terminalEvaluation py candidate memoryKey (buildCandidateHash py candidate) current
          terminal) := by
    intro terminal hs
    refine ⟨rfl, rfl, rfl, rfl, fun t ht ha => ?_, fun ht => by cases ht⟩
    cases ht
    exact absurd ha hs
  unfold aboutCurrent at h
  simp only at h
  split at h
  · cases h
    exact hends _ (by decide)
  · split at h
    · cases h
      exact hends _ (by decide)
    · split at h
      · cases h
        exact hends _ (by decide)
      · next hignore =>
        obtain ⟨canonical, hcanonical, h⟩ := bind_eq_ok.1 h
        cases canonical with
        | some terminal =>
          cases h
          refine ⟨rfl, rfl, rfl, rfl, fun t ht ha => ?_, fun ht => by cases ht⟩
          cases ht
          exact canonicalDelete_accepted hcanonical ha
        | none =>
          cases h
          exact ⟨rfl, rfl, rfl, rfl, fun _ ht => (by cases ht), fun _ => ⟨hignore, rfl⟩⟩

theorem evaluateHardRules_open (h : evaluateHardRules py now reads job candidate turns = .ok hard) :
    hard.candidate = candidate ∧
    (∀ terminal, hard.terminal = some terminal → terminal.status = .accepted →
      job.trigger = .consolidation ∨ job.trigger = .sweeper) ∧
    (hard.terminal = none → ∃ built memoryKey, Clear py reads job candidate turns built ∧
      targetKey reads job candidate built = .ok (some memoryKey) ∧
      About py now job candidate memoryKey
        (reads.currentByKey job.tenantId job.userId candidate.scope memoryKey) hard) := by
  unfold evaluateHardRules at h
  obtain ⟨⟨built, refused⟩, hrefusal, h⟩ := bind_eq_ok.1 h
  cases refused with
  | some reason =>
    cases h
    refine ⟨rfl, fun t ht ha => ?_, fun ht => by cases ht⟩
    cases ht
    cases ha
  | none =>
    obtain ⟨target, htarget, h⟩ := bind_eq_ok.1 h
    cases target with
    | none =>
      cases h
      refine ⟨rfl, fun t ht ha => ?_, fun ht => by cases ht⟩
      cases ht
      cases ha
    | some memoryKey =>
      have habout := aboutCurrent_about h
      exact ⟨habout.same, habout.ended,
        fun _ => ⟨built, memoryKey, refusal_ok.1 hrefusal, htarget, habout⟩⟩

end HardRules

/-! ## Evidence and semantics -/

section Conversation

variable {py : Python} {job : FormationJob} {candidate : FormationCandidate}
  {turns : List FormationTurn}

def conversation (job : FormationJob) : Prop := job.trigger = .turnWindow ∨ job.trigger = .idle

theorem conversation.untrusted (h : conversation job) : trustedCanonical job.trigger = false := by
  rcases h with h | h <;> simp [h, trustedCanonical]

/-- An evidence reference quotes what the user said in a turn that the job is about. -/
def QuotesUser (job : FormationJob) (candidate : FormationCandidate) (turns : List FormationTurn) :
    Prop :=
  ∃ ref ∈ candidate.evidenceRefs, ref.role = .user ∧ ∃ turn ∈ turns, ∃ quote,
    ref.turnId = some turn.turnId ∧ turn.turnId ∈ job.sourceRefs ∧ turn.tenantId = job.tenantId ∧
    turn.userId = job.userId ∧ (∀ sessionId, job.sessionId = some sessionId →
      turn.sessionId = sessionId) ∧
    ref.quote = some quote ∧ quote ≠ "" ∧ quote.toList <:+: turn.userText.toList

theorem turnById_spec {turnId : Option String} {turn : FormationTurn}
    (h : turnById turns turnId = some turn) : turn ∈ turns ∧ turnId = some turn.turnId := by
  unfold turnById at h
  have hmem := List.mem_of_find?_eq_some h
  have hid := List.find?_some h
  simp only [decide_eq_true_eq] at hid
  exact ⟨List.mem_reverse.1 hmem, hid.symm⟩

/-- Without canonical sources the evidence quotes the user. -/
theorem quotesUser (h : validateEvidence job candidate turns = none)
    (huntrusted : trustedCanonical job.trigger = false) : QuotesUser job candidate turns := by
  unfold validateEvidence at h
  simp only at h
  split at h
  · cases h
  · next howner =>
    split at h
    · cases h
    · next hholds =>
      have hall : ∀ ref ∈ candidate.evidenceRefs, evidenceHolds job turns ref = true := by
        simpa using hholds
      have hcanonical : candidate.evidenceRefs.any (·.role = .canonical) = false := by
        rw [Bool.eq_false_iff]
        intro hany
        obtain ⟨ref, hmem, hrole⟩ := List.any_eq_true.1 hany
        have href := hall ref hmem
        simp only [decide_eq_true_eq] at hrole
        simp [evidenceHolds, hrole, huntrusted] at href
      rw [hcanonical] at h
      split at h
      · cases h
      · split at h
        · cases h
        · next huser =>
          obtain ⟨ref, hmem, hrole⟩ : ∃ ref ∈ candidate.evidenceRefs, ref.role = .user := by
            simpa using huser
          have href := hall ref hmem
          rw [evidenceHolds, hrole, if_neg (by decide)] at href
          split at href
          · cases href
          · next turn hturn =>
            obtain ⟨hmemt, hid⟩ := turnById_spec hturn
            simp only [if_true, Bool.and_eq_true, Option.any_eq_true, decide_eq_true_eq] at href
            obtain ⟨hsource, quote, hquote, hne, hin⟩ := href
            have hown : ¬(turn.tenantId ≠ job.tenantId || turn.userId ≠ job.userId ||
                job.sessionId.any (turn.sessionId ≠ ·)) = true := by
              intro hbad
              exact howner (List.any_eq_true.2 ⟨turn, hmemt, hbad⟩)
            simp only [Bool.or_eq_true, decide_eq_true_eq, not_or, ne_eq, not_not,
              Option.any_eq_true, not_exists, not_and] at hown
            refine ⟨ref, hmem, hrole, turn, hmemt, quote, hid, ?_, hown.1.1, hown.1.2, ?_, hquote,
              by simpa using hne, by simpa [within] using hin⟩
            · simpa using hsource
            · intro sessionId hs
              exact hown.2 sessionId hs

theorem validateSemantics_confirmed (h : validateSemantics candidate current = .confirmed) :
    ∃ semantic, candidate.semantic = some semantic ∧ semantic.temporalScope ≠ .currentTurn ∧
      semantic.polarity = .affirmed ∧ semantic.certainty = .certain := by
  unfold validateSemantics at h
  split at h
  · cases h
  · next semantic hsemantic =>
    split at h
    · cases h
    · next htemporal =>
      split at h
      · next hconfirmed =>
        refine ⟨semantic, hsemantic, htemporal, ?_, ?_⟩
        · simp [semanticsConfirmed] at hconfirmed
          tauto
        · simp [semanticsConfirmed] at hconfirmed
          cases hc : semantic.certainty with
          | certain => rfl
          | uncertain => tauto
      · cases h

theorem adaptStructuredCandidate_conversation (h : conversation job) :
    adaptStructuredCandidate py job.trigger candidate = candidate := by
  rw [adaptStructuredCandidate, if_pos]
  simp [h.untrusted]

end Conversation

/-! ## The policy -/

section Policy

variable {policy : MemoryCandidatePolicy} {now now' : Instant} {reads reads' : Reads}
  {reply : VerifierReply} {job : FormationJob} {candidate : FormationCandidate}
  {turns : List FormationTurn} {decision : CandidatePolicyResult}

/-- The evaluation of the hard rules on which a decision rests: the first one, or the
one after the verifier has confirmed the semantics. -/
inductive Rests (policy : MemoryCandidatePolicy) (now now' : Instant) (reads reads' : Reads)
    (reply : VerifierReply) (job : FormationJob) (candidate : FormationCandidate)
    (turns : List FormationTurn) (hard : HardRuleEvaluation) : Prop where
  | first : evaluateHardRules policy.py now reads job candidate turns = .ok hard →
    validateSemantics candidate hard.current = .confirmed →
    Rests policy now now' reads reads' reply job candidate turns hard
  | second : reply = .answered .confirmed →
    evaluateHardRules policy.py now' reads' job candidate turns = .ok hard →
    validateSemantics (confirmedCopy candidate) hard.current = .confirmed →
    Rests policy now now' reads reads' reply job candidate turns hard

theorem ended_accepted
    (hended : ∀ terminal, hard.terminal = some terminal → terminal.status = .accepted →
      job.trigger = .consolidation ∨ job.trigger = .sweeper) (hjob : conversation job)
    (h : policy.ended job hard outcome = some decision) :
    decision.operation.decisionStatus ≠ .accepted := by
  obtain ⟨terminal, hterminal, rfl⟩ := Option.map_eq_some_iff.1 h
  intro ha
  rcases hended terminal hterminal ha with h | h <;> rcases hjob with h' | h' <;> rw [h] at h' <;>
    cases h'

/-- An accepted decision of a conversation is concluded from an evaluation that the hard
rules did not end. -/
theorem evaluate_accepted (hjob : conversation job)
    (h : policy.evaluate now now' reads reads' reply job candidate turns = .ok decision)
    (ha : decision.operation.decisionStatus = .accepted) :
    ∃ hard outcome, Rests policy now now' reads reads' reply job candidate turns hard ∧
      hard.terminal = none ∧ decision = policy.conclude job candidate hard outcome := by
  unfold MemoryCandidatePolicy.evaluate at h
  simp only [adaptStructuredCandidate_conversation hjob] at h
  obtain ⟨hard, hhard, h⟩ := bind_eq_ok.1 h
  obtain ⟨hsame, hended, -⟩ := evaluateHardRules_open hhard
  split at h
  · next ended he =>
    cases h
    exact absurd ha (ended_accepted hended hjob he)
  · next hopen =>
    have hterminal : hard.terminal = none := Option.map_eq_none_iff.1 hopen
    split at h
    · cases h
      cases ha
    · next hnow =>
      split at h
      · cases h
        cases ha
      · split at h
        · cases h
          cases ha
        · split at h
          · next hpending =>
            obtain ⟨⟨hard2, semantic2⟩, hverify, h⟩ := bind_eq_ok.1 h
            unfold MemoryCandidatePolicy.verifyPending at hverify
            rw [hsame] at hverify
            split at hverify
            · next hreply =>
              obtain ⟨rerun, hrerun, hverify⟩ := bind_eq_ok.1 hverify
              cases hverify
              obtain ⟨hsame2, hended2, -⟩ := evaluateHardRules_open hrerun
              split at h
              · next ended he =>
                cases h
                exact absurd ha (ended_accepted hended2 hjob he)
              · next hopen2 =>
                split at h
                · next hconfirmed =>
                  cases h
                  rw [hsame2] at hconfirmed
                  exact ⟨hard2, _, .second hreply hrerun hconfirmed,
                    Option.map_eq_none_iff.1 hopen2, rfl⟩
                · cases h
                  cases ha
            · cases hverify
              split at h
              · next ended he =>
                cases h
                exact absurd ha (ended_accepted hended hjob he)
              · split at h
                · next hconfirmed =>
                  cases hpending.symm.trans hconfirmed
                · cases h
                  cases ha
          · next hpending =>
            cases h
            refine ⟨hard, none, .first hhard ?_, hterminal, rfl⟩
            cases hs : validateSemantics candidate hard.current with
            | confirmed => rfl
            | pending => exact absurd hs hpending
            | currentTurn => exact absurd hs hnow

structure Accepted (policy : MemoryCandidatePolicy) (reply : VerifierReply) (job : FormationJob)
    (candidate : FormationCandidate) (turns : List FormationTurn) : Prop where
  quotes : QuotesUser job candidate turns
  confidence : policy.autoThreshold ≤ candidate.confidence
  semantics : ∃ semantic, candidate.semantic = some semantic ∧
    semantic.temporalScope ≠ .currentTurn ∧ semantic.polarity = .affirmed ∧
    (semantic.certainty = .certain ∨ reply = .answered .confirmed)

/-- A deletion is of the memory that the candidate names, and its semantics are a certain,
affirmed and long-term delete. -/
def NamesCurrent (reads reads' : Reads) (reply : VerifierReply) (job : FormationJob)
    (candidate : FormationCandidate) (decision : CandidatePolicyResult) : Prop :=
  (∃ item, (reads.currentByKey job.tenantId job.userId candidate.scope
        decision.operation.memoryKey = some item ∨
      reply = .answered .confirmed ∧ reads'.currentByKey job.tenantId job.userId candidate.scope
        decision.operation.memoryKey = some item) ∧
    candidate.targetMemoryId = some item.memoryId ∧
    decision.operation.memoryId = some item.memoryId) ∧
  ∃ semantic, candidate.semantic = some semantic ∧ semantic.changeIntent = .delete ∧
    semantic.temporalScope = .longTerm ∧ semantic.polarity = .affirmed ∧
    semantic.certainty = .certain

/-- The semantics behind a decision, before the verifier's certainty. -/
theorem Rests.semantics (h : Rests policy now now' reads reads' reply job candidate turns hard) :
    ∃ semantic, candidate.semantic = some semantic ∧ semantic.temporalScope ≠ .currentTurn ∧
      semantic.polarity = .affirmed ∧ (semantic.certainty = .certain ∨ reply = .answered .confirmed) := by
  cases h with
  | first _ hs =>
    obtain ⟨semantic, hsemantic, htemporal, hpolarity, hcertain⟩ := validateSemantics_confirmed hs
    exact ⟨semantic, hsemantic, htemporal, hpolarity, .inl hcertain⟩
  | second hreply _ hs =>
    obtain ⟨copied, hcopied, htemporal, hpolarity, -⟩ := validateSemantics_confirmed hs
    obtain ⟨semantic, hsemantic, rfl⟩ := Option.map_eq_some_iff.1 hcopied
    exact ⟨semantic, hsemantic, htemporal, hpolarity, .inr hreply⟩

/-- The hard rules behind a decision that they did not end. -/
theorem Rests.hardRules (h : Rests policy now now' reads reads' reply job candidate turns hard)
    (hterminal : hard.terminal = none) :
    ∃ now₀ reads₀ built memoryKey, (reads₀ = reads ∨ reply = .answered .confirmed ∧ reads₀ = reads') ∧
      Clear policy.py reads₀ job candidate turns built ∧
      targetKey reads₀ job candidate built = .ok (some memoryKey) ∧
      About policy.py now₀ job candidate memoryKey
        (reads₀.currentByKey job.tenantId job.userId candidate.scope memoryKey) hard := by
  cases h with
  | first hhard _ =>
    obtain ⟨built, memoryKey, hclear, htarget, habout⟩ := (evaluateHardRules_open hhard).2.2 hterminal
    exact ⟨now, reads, built, memoryKey, .inl rfl, hclear, htarget, habout⟩
  | second hreply hhard _ =>
    obtain ⟨built, memoryKey, hclear, htarget, habout⟩ := (evaluateHardRules_open hhard).2.2 hterminal
    exact ⟨now', reads', built, memoryKey, .inr ⟨hreply, rfl⟩, hclear, htarget, habout⟩

/-- What is concluded as accepted: the thresholds and the operations. -/
theorem conclude_accepted
    (ha : (policy.conclude job candidate hard outcome).operation.decisionStatus = .accepted) :
    policy.autoThreshold ≤ candidate.confidence ∧
    (candidate.proposedOperation = .delete ∧ hard.deleteAuthorized = true ∧
        policy.conclude job candidate hard outcome =
          result policy.py job hard .delete .accepted .authorizedDelete "confirmed" outcome ∨
      candidate.proposedOperation ≠ .delete ∧
        (hard.current = none ∧ policy.conclude job candidate hard outcome =
            result policy.py job hard .add .accepted .acceptedNew "confirmed" outcome ∨
          hard.current.isSome = true ∧ policy.conclude job candidate hard outcome =
            result policy.py job hard .update .accepted .acceptedUpdate "confirmed" outcome)) := by
  unfold MemoryCandidatePolicy.conclude at ha ⊢
  simp only at ha ⊢
  split at ha
  · cases ha
  · next hlow =>
    refine ⟨Rat.not_lt.1 hlow, ?_⟩
    rw [if_neg hlow]
    split at ha
    · next hdelete =>
      split at ha
      · next hauthorized =>
        rw [if_pos hdelete, if_pos hauthorized]
        exact .inl ⟨hdelete, hauthorized, rfl⟩
      · cases ha
    · next hdelete =>
      rw [if_neg hdelete]
      refine .inr ⟨hdelete, ?_⟩
      cases hcurrent : hard.current with
      | none => exact .inl ⟨rfl, rfl⟩
      | some item => exact .inr ⟨rfl, rfl⟩

/-- **Accepted candidates of a conversation.** Whatever the repository holds at either
evaluation and whatever the verifier says: an accepted decision quotes the user's own words
from a turn of the job, is confident enough, and has semantics that are affirmed, are not
about this turn only, and are certain or confirmed by the verifier. An accepted ADD or
UPDATE matches no sensitive pattern; an accepted DELETE is of the memory it names. -/
theorem accepted_sound (hjob : conversation job)
    (h : policy.evaluate now now' reads reads' reply job candidate turns = .ok decision)
    (ha : decision.operation.decisionStatus = .accepted) :
    Accepted policy reply job candidate turns ∧
    (decision.operation.operation = .add ∨ decision.operation.operation = .update ∨
      decision.operation.operation = .delete) ∧
    (decision.operation.operation = .add ∨ decision.operation.operation = .update →
      ∀ pattern ∈ sensitivePatterns policy.py.toTables,
        pattern.search (scannedText policy.py candidate) = false) ∧
    (decision.operation.operation = .delete →
      NamesCurrent reads reads' reply job candidate decision) := by
  obtain ⟨hard, outcome, hrests, hterminal, rfl⟩ := evaluate_accepted hjob h ha
  obtain ⟨now₀, reads₀, built, memoryKey, hreads, hclear, htarget, habout⟩ := hrests.hardRules hterminal
  obtain ⟨hconfidence, hcases⟩ := conclude_accepted ha
  refine ⟨⟨quotesUser hclear.evidence hjob.untrusted, hconfidence, hrests.semantics⟩, ?_⟩
  rcases hcases with ⟨hdelete, hauthorized, heq⟩ | ⟨hdelete, hcurrent⟩
  · rw [heq]
    refine ⟨.inr (.inr rfl), ?_, fun _ => ?_⟩
    · rintro (hop | hop) <;> cases hop
    · rw [(habout.kept hterminal).2] at hauthorized
      simp only [authorizedUserDelete, Bool.and_eq_true, Option.any_eq_true, decide_eq_true_eq]
        at hauthorized
      obtain ⟨⟨⟨item, hitem, htargetId⟩, -⟩, semantic, hsemantic, ⟨⟨hintent, htemporal⟩, hpolarity⟩,
        hcertain⟩ := hauthorized
      have hkey : (result policy.py job hard .delete .accepted .authorizedDelete "confirmed"
          outcome).operation.memoryKey = memoryKey := habout.key
      have hid : (result policy.py job hard .delete .accepted .authorizedDelete "confirmed"
          outcome).operation.memoryId = some item.memoryId := by
        show hard.current.map (·.memoryId) = some item.memoryId
        rw [habout.found, hitem]
        rfl
      refine ⟨⟨item, ?_, htargetId, hid⟩, semantic, hsemantic, hintent, htemporal, hpolarity, hcertain⟩
      rw [hkey]
      rcases hreads with rfl | ⟨hreply, rfl⟩
      · exact .inl hitem
      · exact .inr ⟨hreply, hitem⟩
  · have hclean := hclear.clean hdelete
    simp only [containsSensitiveData, matchesSensitive, Bool.or_eq_false_iff] at hclean
    have hpatterns : ∀ pattern ∈ sensitivePatterns policy.py.toTables,
        pattern.search (scannedText policy.py candidate) = false := by
      intro pattern hmem
      have hany := List.any_eq_false.1 hclean.2 pattern hmem
      simpa using hany
    rcases hcurrent with ⟨-, heq⟩ | ⟨-, heq⟩
    · rw [heq]
      exact ⟨.inl rfl, fun _ => hpatterns, fun hop => (by cases hop)⟩
    · rw [heq]
      exact ⟨.inr (.inl rfl), fun _ => hpatterns, fun hop => (by cases hop)⟩

end Policy

/-! ## What is searched -/

/-- A match in the content, whatever follows it, is found. -/
theorem search_content {py : Python} {candidate : FormationCandidate} {pattern : Regex}
    {front back : List Char} (hcontent : candidate.content.toList = front ++ back)
    (hmatch : ∀ rest, ∃ q, q ∈ pattern.ends ⟨front.getLast?, back ++ '\n' :: rest⟩) :
    pattern.search (scannedText py candidate) = true := by
  obtain ⟨rest, hrest⟩ : ∃ rest, (scannedText py candidate).toList =
      candidate.content.toList ++ '\n' :: rest := by
    unfold scannedText
    rw [String.toList_intercalate, List.cons_append, List.cons_append, List.map_cons, List.map_cons,
      List.intercalate_cons_cons, List.append_assoc]
    exact ⟨_, rfl⟩
  obtain ⟨q, hq⟩ := hmatch rest
  refine Regex.search_of_ends ?_ hq
  rw [hrest, hcontent, List.append_assoc]

/-! ## A conversation -/

def hexDigits : Nat → Nat → List Char
  | 0, _ => []
  | k + 1, n => (hexDigit (n % 16)).toLower :: hexDigits k (n / 16)

/-- Thirty-two hexadecimal digits of a polynomial in the first characters of the text. -/
def hexText (s : String) : String :=
  String.ofList (hexDigits 32 ((s.toList.take 64).foldl
    (fun n c => (n * 257 + c.toNat) % 2 ^ 128) 7))

theorem hexText_hex (s : String) : ∀ c ∈ (hexText s).toList, c.isDigit = true ∨ 'a' ≤ c ∧ c ≤ 'f' := by
  have hall : ∀ n : Fin 16, (hexDigit n.val).toLower.isDigit = true ∨
      'a' ≤ (hexDigit n.val).toLower ∧ (hexDigit n.val).toLower ≤ 'f' := by
    decide
  have hdigits : ∀ k n, ∀ c ∈ hexDigits k n, c.isDigit = true ∨ 'a' ≤ c ∧ c ≤ 'f' := by
    intro k
    induction k with
    | zero => simp [hexDigits]
    | succ k ih =>
      intro n c hc
      rcases List.mem_cons.1 hc with rfl | hrest
      · exact hall ⟨n % 16, Nat.mod_lt n (by decide)⟩
      · exact ih (n / 16) c hrest
  rw [hexText, String.toList_ofList]
  exact hdigits 32 _

theorem asciiPython_upper (s : String) (_ : ∀ c ∈ s.toList, c.toNat < 128) :
    String.ofList (s.toList.map Char.toUpper) = String.ofList (s.toList.map Char.toUpper) := rfl

theorem asciiPython_lower (s : String) (_ : ∀ c ∈ s.toList, c.toNat < 128) :
    String.ofList (s.toList.map Char.toLower) = String.ofList (s.toList.map Char.toLower) := rfl

theorem asciiPython_decimal (c : Char) (_ : c.toNat < 128) :
    (if c.isDigit then some (c.toNat - 48) else none) =
      if c.isDigit then some (c.toNat - 48) else none := rfl

def asciiPython : Python where
  upper s := String.ofList (s.toList.map Char.toUpper)
  lower s := String.ofList (s.toList.map Char.toLower)
  decimal c := if c.isDigit then some (c.toNat - 48) else none
  upper_ascii := asciiPython_upper
  lower_ascii := asciiPython_lower
  decimal_ascii := asciiPython_decimal
  alnum c := c.isAlphanum
  casefold s := String.ofList (s.toList.map Char.toLower)
  alnum_ascii _ _ := rfl
  sha256 := hexText
  str
    | .str s => s
    | _ => ""
  number q := toString q.num
  arithmetic := .double
  sha256_hex := hexText_hex
  str_str _ := rfl

def defaultPolicy : MemoryCandidatePolicy where
  py := asciiPython
  pendingThreshold := 1 / 2
  autoThreshold := 4 / 5
  normalizedLanguage _ := none
  instructionTargetLanguage _ := none

def chatTurn (userText : String) : FormationTurn where
  turnId := "turn-1"
  userId := "ada"
  tenantId := "acme"
  userText := userText
  assistantText := ""
  usedMemoryIds := []
  status := .claimed
  requestId := "req-1"
  sessionId := "chat"
  runId := none
  agentId := none
  resultStatus := "completed"
  resultRefs := []
  planRefs := []
  artifactRefs := []
  idleDeadlineAt := none
  claimedJobId := some "mfjob_1"
  completedAt := 10
  createdAt := 10

def chatJob : FormationJob where
  jobId := "mfjob_1"
  status := .claimed
  tenantId := "acme"
  userId := "ada"
  sourceRefs := ["turn-1"]
  traceSummary := []
  trigger := .turnWindow
  mode := .enforced
  sessionId := some "chat"
  firstTurnId := some "turn-1"
  lastTurnId := some "turn-1"
  idempotencyKey := "formation-range:1"
  modelVersion := "formation-model-v1"
  promptVersion := "formation-prompt-v1"
  policyVersion := "formation-policy-v1"
  attemptCount := 1
  maxAttempts := 5
  leaseOwner := some "worker"
  leaseToken := some "token"
  leaseExpiresAt := some 100
  nextAttemptAt := none
  lastErrorCode := none
  createdAt := 10
  updatedAt := 10

def forgetCandidate : FormationCandidate where
  scope := "stable_fact"
  content := "123-45-6789"
  structuredValue := []
  confidence := 9 / 10
  importance := 1 / 2
  evidenceRefs := [⟨some "turn-1", none, .user, some "123-45-6789", none⟩]
  content_not_blank := by decide
  structuredValue_keys := Eq.refl true
  confidence_unit := unit_nine_tenths
  importance_unit := unit_half
  candidateId := "mfc_1"
  proposedOperation := .delete
  semantic := some ⟨.memory, "social_security_number", .null, .longTerm, .affirmed, .certain, .delete⟩
  subjectType := "user"
  subjectIdHint := none
  tenantIdHint := none
  memoryKeyHint := none
  targetMemoryId := some "mem_1"
  sensitivity := "normal"
  reason := ""

def numberItem : MemoryItem where
  memoryId := "mem_1"
  scope := "stable_fact"
  subjectType := "user"
  subjectId := "ada"
  userId := some "ada"
  tenantId := some "acme"
  agentId := none
  content := "The number is 123-45-6789."
  structuredValue := []
  source := "formation"
  confidence := 1
  importance := 1 / 2
  visibility := .user
  ttlExpiresAt := none
  metadata := []
  memoryKey := some "tenant:acme:user:ada:fact:social_security_number"
  candidateHash := none
  currentRevisionId := some "mrev_1"
  currentRevisionNo := some 1
  formationJobId := none
  lifecycleStatus := .active
  indexStatus := some .ready
  canonicalRefs := []
  createdAt := 1
  updatedAt := 1

def numberReads : Reads where
  currentByKey _ _ _ memoryKey :=
    if memoryKey = "tenant:acme:user:ada:fact:social_security_number" then some numberItem else none
  activeByIds _ _ _ _ := []

theorem forget_decision :
    ∃ decision, defaultPolicy.evaluate 20 20 numberReads numberReads .notConfigured chatJob
        forgetCandidate [chatTurn "Forget my number 123-45-6789."] = .ok decision ∧
      decision.operation.decisionStatus = .accepted ∧ decision.operation.operation = .delete := by
  have hrun : (defaultPolicy.evaluate 20 20 numberReads numberReads .notConfigured chatJob
      forgetCandidate [chatTurn "Forget my number 123-45-6789."]).map
        (fun decision => (decision.operation.decisionStatus, decision.operation.operation)) =
      .ok (.accepted, .delete) := by
    decide +kernel
  obtain ⟨decision, hdecision, heq⟩ := map_eq_ok.1 hrun
  exact ⟨decision, hdecision, congrArg Prod.fst heq, congrArg Prod.snd heq⟩

/-- The memory is deleted that the candidate names. -/
theorem accepted_sound_forget :
    ∃ decision, NamesCurrent numberReads numberReads .notConfigured chatJob forgetCandidate
      decision := by
  obtain ⟨decision, h, ha, hdelete⟩ := forget_decision
  exact ⟨decision, (accepted_sound (.inl rfl) h ha).2.2.2 hdelete⟩

/-- The deletion of a memory with such a number is accepted, though the candidate quotes it. -/
theorem sensitive_delete_accepted :
    ¬∀ (policy : MemoryCandidatePolicy) (now now' : Instant) (reads reads' : Reads)
      (reply : VerifierReply) (job : FormationJob) (candidate : FormationCandidate)
      (turns : List FormationTurn) (decision : CandidatePolicyResult), conversation job →
      policy.evaluate now now' reads reads' reply job candidate turns = .ok decision →
      decision.operation.decisionStatus = .accepted → decision.operation.operation = .delete →
      ∀ pattern ∈ sensitivePatterns policy.py.toTables,
        pattern.search (scannedText policy.py candidate) = false := by
  intro hclaim
  obtain ⟨decision, h, ha, hdelete⟩ := forget_decision
  have hclean := hclaim _ _ _ _ _ _ _ _ _ decision (.inl rfl) h ha hdelete
    (socialSecurityNumber asciiPython.toTables) (by simp [sensitivePatterns, defaultPolicy])
  have hfound : (socialSecurityNumber asciiPython.toTables).search
      (scannedText asciiPython forgetCandidate) = true := by
    refine search_content (List.nil_append _).symm fun rest => ?_
    exact ⟨_, List.mem_of_mem_head? rfl⟩
  cases hfound.symm.trans hclean

end OpenIntentRouter.Candidates
