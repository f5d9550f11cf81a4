import Mujian.Relay.Reachability
import Mujian.Billing.SessionClosing
import Mujian.Relay.BillingMode
import Mujian.Payment.Redemption
import Mujian.Payment.AffTransfer
import Mujian.Subscriptions.GroupRuns
import Mujian.Subscriptions.Maintenance
import Mujian.Tasks.SunoRefunds
import Mujian.Tasks.Refunds
import Mujian.Relay.AutoGroups
import Mujian.Studio.AgentHistory
import Mujian.Studio.ProposalRuns
import Mujian.Billing.OpeningTotals
import Mujian.Tasks.RelayTask
import Mujian.Payment.AdminRecharge
import Mujian.Streams.Billed
import Mujian.Streams.ToolCalls
import Mujian.Streams.ConvertedRuns
import Mujian.Streams.Responses
import Mujian.Studio.Shots
import Mujian.Downloads.Clients
import Mujian.Channels.KeyPolling
import Mujian.Channels.Affinity
import Mujian.Gateway.DiskCache
import Mujian.Gateway.TwoFactor
import Mujian.Billing.Coverage
import Mujian.Gateway.RateLimit
import Mujian.Subscriptions.ResetTimes
import Mujian.Subscriptions.PlanTimes
import Mujian.Relay.Draws
import Mujian.Relay.ParamOverride
import Mujian.Tasks.ChangeDetection
import Mujian.Tasks.GroupRatio
import Mujian.Relay.ImageRetail
import Mujian.Pricing.Editor
import Mujian.Tasks.SunoAnswers
import Mujian.Tasks.Ratios
import Mujian.Streams.Gemini
