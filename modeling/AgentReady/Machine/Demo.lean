import AgentReady.Lib.OrderedMap
import AgentReady.Payments.Types

/-!
The mock fit-scoring resource (`DemoMachineResource` of `apps/web/lib/machine.ts`).

It is paid once for each payment identifier and answers a repeat from its cache. Header
encoding is a round trip of the same values and is left out, as are the price texts of a
quote that no caller reads.

* `runMachineSpend_ok`: a spend under the agent's own wallet is always accepted.
-/

namespace AgentReady

structure FitScore where
  productId : String
  fitScore : Int
  note : String
deriving DecidableEq

structure FitScoreResource where
  resourceName : String
  scoredAt : String
  fit : String
  scores : List FitScore
deriving DecidableEq

structure SettlementResponse where
  success : Bool
  network : String
  payer : String
  amount : String
  transactionHash : Option String
  paymentIdentifier : Option String
  memo : Option String
deriving DecidableEq

structure MachineSpendConfig where
  resourceName : String
  payeeWallet : String
  usdcMint : String
  amountMinor : Int
  network : String
  agentWallet : String

/-- `DEFAULT_MACHINE_SPEND`. -/
def defaultMachineSpend : MachineSpendConfig where
  resourceName := "RunVista Premium Fit-Scoring API"
  payeeWallet := "demo_payee_RunVista_mock"
  usdcMint := "usdc_devnet_mock_mint"
  amountMinor := 10000
  network := solanaDevnetCaip2
  agentWallet := "demo_agent_wallet_mock"

structure PaymentSignaturePayload where
  scheme : String
  network : String
  paymentIdentifier : String
  payer : String
  /-- The amount as a decimal text of millionths. -/
  amountMinor : Int
  payee : Option String
  memo : Option String

/-- What the resource has been paid for, by payment identifier. -/
structure DemoMachineResource where
  processed : OrderedMap String SettlementResponse := ∅
  cachedResource : OrderedMap String FitScoreResource := ∅

namespace DemoMachineResource

def hasProcessed (r : DemoMachineResource) (paymentIdentifier : String) : Bool :=
  r.processed.has paymentIdentifier

def score (config : MachineSpendConfig) (payer : String) (scoredAt : String) : FitScoreResource where
  resourceName := config.resourceName
  scoredAt := scoredAt
  fit := if payer = config.agentWallet then "wide" else "unknown"
  scores := [
    ⟨"p_vista_max", 95, "Wide last, max cushioning, outstanding arch support for wide feet"⟩,
    ⟨"p_streak_4", 72, "Standard fit runs snug on wide feet"⟩,
    ⟨"p_stride_lite", 45, "Narrow last unsuitable for wide fit"⟩,
    ⟨"p_trail_rock", 68, "Standard fit, roomy toebox but narrow midfoot"⟩,
    ⟨"p_gym_pace", 60, "Standard fit, medium width"⟩,
    ⟨"p_casual_day", 88, "Wide fit, relaxed everyday silhouette"⟩]

/-- The defects of a payment. -/
def paymentErrors (config : MachineSpendConfig) (payload : PaymentSignaturePayload)
    (envelopeHash : String) : List String :=
  let when (condition : Bool) (text : String) := if condition then [text] else []
  when (payload.scheme ≠ "exact") "scheme must be exact" ++
    when (payload.network ≠ config.network) ("wrong network " ++ payload.network) ++
    when (payload.paymentIdentifier = "") "payment-identifier required" ++
    when (payload.amountMinor < config.amountMinor) "underpayment" ++
    when (payload.payee.any fun p => p ≠ "" && p ≠ config.payeeWallet) "wrong recipient" ++
    when (payload.memo ≠ some (memoForEnvelope envelopeHash)) "memo mismatch"

/-- `accept`, for a decoded payment: the errors, or the resource with its settlement. -/
def accept (config : MachineSpendConfig) (now : String) (r : DemoMachineResource)
    (payload : PaymentSignaturePayload) (envelopeHash : String) :
    Except (List String) (SettlementResponse × FitScoreResource) × DemoMachineResource :=
  match paymentErrors config payload envelopeHash with
  | [] =>
      let id := payload.paymentIdentifier
      match r.processed.get? id, r.cachedResource.get? id with
      | some settlement, some resource => (.ok (settlement, resource), r)
      | _, _ =>
          let settlement : SettlementResponse :=
            { success := true, network := config.network, payer := payload.payer,
              amount := formatX402Amount payload.amountMinor,
              transactionHash := some ("tx_mock_" ++ id), paymentIdentifier := some id,
              memo := payload.memo }
          let resource := score config payload.payer now
          (.ok (settlement, resource),
            { processed := r.processed.set id settlement,
              cachedResource := r.cachedResource.set id resource })
  | errors => (.error errors, r)

end DemoMachineResource

/-- `runMachineSpend`: pay the quoted price from the agent's wallet. -/
def runMachineSpend (config : MachineSpendConfig) (now : String) (r : DemoMachineResource)
    (envelopeHash paymentIdentifier : String) :
    Except (List String) (SettlementResponse × FitScoreResource) × DemoMachineResource :=
  r.accept config now
    { scheme := "exact", network := config.network, paymentIdentifier,
      payer := config.agentWallet, amountMinor := config.amountMinor,
      payee := some config.payeeWallet, memo := some (memoForEnvelope envelopeHash) }
    envelopeHash

theorem runMachineSpend_ok {config : MachineSpendConfig} {now envelopeHash id : String}
    {r : DemoMachineResource} (named : id ≠ "") :
    ∃ paid, (runMachineSpend config now r envelopeHash id).1 = .ok paid := by
  have accepted : DemoMachineResource.paymentErrors config
      { scheme := "exact", network := config.network, paymentIdentifier := id,
        payer := config.agentWallet, amountMinor := config.amountMinor,
        payee := some config.payeeWallet, memo := some (memoForEnvelope envelopeHash) }
      envelopeHash = [] := by
    simp [DemoMachineResource.paymentErrors, named]
  simp only [runMachineSpend, DemoMachineResource.accept, accepted]
  split <;> exact ⟨_, rfl⟩

end AgentReady
