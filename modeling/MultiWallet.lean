import MultiWallet.Description
import MultiWallet.Main
import MultiWallet.Proofs.Account.Totals
import MultiWallet.Proofs.Amount.Minor
import MultiWallet.Proofs.Asset.Archive
import MultiWallet.Proofs.Capacity
import MultiWallet.Proofs.Chain.Gas
import MultiWallet.Proofs.Chain.Ledger
import MultiWallet.Proofs.Chain.Sweep
import MultiWallet.Proofs.Coin.Listing
import MultiWallet.Proofs.Coin.Rate
import MultiWallet.Proofs.Contract
import MultiWallet.Proofs.Estimate
import MultiWallet.Proofs.Execution
import MultiWallet.Proofs.Freshness
import MultiWallet.Proofs.Payout
import MultiWallet.Proofs.Registry.Offers
import MultiWallet.Proofs.Registry.Preparation
import MultiWallet.Proofs.Registry.Swap
import MultiWallet.Proofs.Settings.Environment
import MultiWallet.Proofs.Status
import MultiWallet.Proofs.Tally
