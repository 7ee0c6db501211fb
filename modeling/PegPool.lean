import PegPool.Curve
import PegPool.Curve.ConstantPrice
import PegPool.Curve.Error
import PegPool.Curve.Field
import PegPool.Curve.Kind
import PegPool.Curve.RedemptionRate
import PegPool.Decimal.Arithmetic
import PegPool.Decimal.Double
import PegPool.Decimal.Numeral
import PegPool.Decimal.Shortest
import PegPool.Document
import PegPool.Document.Reader
import PegPool.Engine
import PegPool.Event
import PegPool.Failure
import PegPool.Limits
import PegPool.Logged
import PegPool.Main
import PegPool.Narrow
import PegPool.Parameters
import PegPool.Parameters.Problem
import PegPool.Price
import PegPool.Proofs.Acceptance
import PegPool.Proofs.Checkpoint
import PegPool.Proofs.ClosedForm
import PegPool.Proofs.Curve
import PegPool.Proofs.Dilution
import PegPool.Proofs.Document
import PegPool.Proofs.Drift
import PegPool.Proofs.Duration
import PegPool.Proofs.Engine
import PegPool.Proofs.Failures
import PegPool.Proofs.FlatRate
import PegPool.Proofs.Headroom
import PegPool.Proofs.History
import PegPool.Proofs.Honest
import PegPool.Proofs.Index
import PegPool.Proofs.Liquidity
import PegPool.Proofs.MintCost
import PegPool.Proofs.Pace
import PegPool.Proofs.Parameters
import PegPool.Proofs.Parameters.Number
import PegPool.Proofs.Pool
import PegPool.Proofs.PoolTokens
import PegPool.Proofs.Portions
import PegPool.Proofs.Price
import PegPool.Proofs.Purchase
import PegPool.Proofs.Quote
import PegPool.Proofs.Ray.Accuracy
import PegPool.Proofs.Ray.Decay
import PegPool.Proofs.Ray.Power
import PegPool.Proofs.Ray.Whole
import PegPool.Proofs.Record
import PegPool.Proofs.Retelling
import PegPool.Proofs.RoundTrip
import PegPool.Proofs.Share
import PegPool.Proofs.Splitting
import PegPool.Proofs.Stored
import PegPool.Proofs.Swaps
import PegPool.Proofs.Text.Numeral
import PegPool.Proofs.Text.Spelling
import PegPool.Proofs.Time
import PegPool.Proofs.Validation
import PegPool.Proofs.Valuation
import PegPool.Proofs.ValueShare
import PegPool.Proofs.Wide
import PegPool.Proofs.Wide.Chain
import PegPool.Proofs.Wide.Exact
import PegPool.Proofs.Wide.Guarded
import PegPool.Proofs.Width
import PegPool.Proofs.Wording
import PegPool.Quote
import PegPool.Quote.Given
import PegPool.Quote.Options
import PegPool.Quote.Path
import PegPool.Ray.Power
import PegPool.Record
import PegPool.Record.Field
import PegPool.Session
import PegPool.Share
import PegPool.Text.Blank
import PegPool.Text.Digit
import PegPool.Text.Numeral
import PegPool.Text.Printable
import PegPool.Text.Quoted
import PegPool.Text.Template
import PegPool.Text.Written
import PegPool.Trade
import PegPool.Value
import PegPool.Wide
import PegPool.Wide.Chain
import PegPool.Wide.Operand
import PegPool.Wide.Operator
