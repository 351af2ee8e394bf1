import Superstore.Relational.Errors
import Superstore.Books.Refinement
import Superstore.Books.Requests
import Superstore.Marketplace.Browse
import Superstore.Properties.ActiveCheckouts
import Superstore.Properties.Captured
import Superstore.Properties.Fulfilment
import Superstore.Properties.OrderTerminal
import Superstore.Properties.RefundTerminal
import Superstore.Properties.Repayments
import Superstore.Properties.ProviderBoundary
import Superstore.Properties.ChargeRecords
import Superstore.Properties.Stock
import Superstore.Properties.WalletSolvency
import Superstore.Properties.TransferAccounts
import Superstore.Properties.PaymentStart
import Superstore.Properties.Credentials
import Superstore.Properties.Conversions
import Superstore.Properties.Verification
import Superstore.Properties.Rewards
import Superstore.Properties.DeliveryStatus
import Superstore.Properties.Scans
import Superstore.Properties.InStep
import Superstore.Properties.History
import Superstore.Properties.RiderFees
import Superstore.Properties.KlumpStates
import Superstore.Properties.KlumpRejection
import Superstore.Checkout.Preview
import Superstore.Access.Approvals
import Superstore.Access.OneTimeCodes
import Superstore.Access.Passkeys
import Superstore.Access.RefreshTokens
import Superstore.Accounts.Licences
import Superstore.Properties.OrderConfirmations
import Superstore.Campaigns.Model
import Superstore.Campaigns.Requests
import Superstore.Riders.Readiness
import Superstore.Admin.Payouts
import Superstore.Chats.History
import Superstore.Checkout.Applications
import Superstore.Properties.Financing
import Superstore.Properties.Topups
import Superstore.Properties.Carts
import Superstore.Checkout.DueDates
import Superstore.Payments.Deductions
import Superstore.Checkout.Fingerprint
import Superstore.Notifications.Notify
import Superstore.Orders.Returns
import Superstore.Campaigns.Reviews
import Superstore.Properties.OneRider
import Superstore.Properties.Bookkeeping
import Superstore.Requests.Bundles
import Superstore.Properties.StoreShares
import Superstore.Properties.Cancellations
import Superstore.Access.Staff
import Superstore.Access.StaffSessions
import Superstore.Properties.Points
