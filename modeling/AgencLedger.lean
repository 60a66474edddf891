import AgencLedger.App.Crosschain
import AgencLedger.App.Matching
import AgencLedger.App.Offchain
import AgencLedger.App.SwapSession
import AgencLedger.Review.Authorities
import AgencLedger.Review.DeadStorage
import AgencLedger.Review.Display
import AgencLedger.Review.Fallback
import AgencLedger.Review.Lamports
import AgencLedger.Review.MaxFee
import AgencLedger.Review.Subjects
import AgencLedger.Sol.AmountBuffer
import AgencLedger.Sol.Timestamp
import AgencLedger.Program.Faultless
import AgencLedger.App.DescriptorAmount
import AgencLedger.App.DisplaySettings
import AgencLedger.App.Whitelist
import AgencLedger.Program.ArtifactHash
import AgencLedger.Review.SizedStrings
import AgencLedger.Sol.AtaSearch
import AgencLedger.Sol.SummarySlots
import AgencLedger.App.StringUtils
import AgencLedger.Program.TokenSigners
import AgencLedger.Review.Multisig
import AgencLedger.App.Delayed
import AgencLedger.App.OffchainGrammar
import AgencLedger.App.OffchainReview
import AgencLedger.App.Recipient
import AgencLedger.App.SwapParameters
import AgencLedger.Program.AccountsIterator
import AgencLedger.Program.AgencGrammar
import AgencLedger.Program.InBounds
import AgencLedger.Program.References
import AgencLedger.Review.ComputeBudget
import AgencLedger.Review.CreateTask
import AgencLedger.Sol.Base58Buffers
import AgencLedger.Review.ExpertMode
import AgencLedger.App.SignedAsShown
import AgencLedger.App.BodyFormat
import AgencLedger.Review.Artifact
import AgencLedger.App.Exchange
