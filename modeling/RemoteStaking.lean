import RemoteStaking.Scenario
import RemoteStaking.Proofs.Gateway.Funds
import RemoteStaking.Proofs.Gateway.Success
import RemoteStaking.Proofs.Gateway.Course
import RemoteStaking.Proofs.Scenario.Runs
import RemoteStaking.Proofs.Gateway.Commuting
import RemoteStaking.Proofs.Json.Documents
import RemoteStaking.Proofs.Scenario.Books
import RemoteStaking.Proofs.Scenario.Instructions
import RemoteStaking.Proofs.Scenario.Lapse
import RemoteStaking.Proofs.Gateway.Isolation
import RemoteStaking.Proofs.Gateway.Arguments
import RemoteStaking.Proofs.Text.Utf8
import RemoteStaking.Proofs.Abi.RoundTrip
import RemoteStaking.Proofs.Gateway.Emission
import RemoteStaking.Proofs.Gateway.Entry
import RemoteStaking.Proofs.Authorization.Ruling
import RemoteStaking.Proofs.Chain.Packets
import RemoteStaking.Proofs.Wire.Faithful
import RemoteStaking.Proofs.Authorization.Paying
import RemoteStaking.Proofs.Authorization.Unlimited
import RemoteStaking.Proofs.Authorization.Narrowing
import RemoteStaking.Proofs.Authorization.Ordering
import RemoteStaking.Proofs.Scenario.Payments
import RemoteStaking.Proofs.Gateway.Settling
import RemoteStaking.Proofs.Purse.Changes
import RemoteStaking.Proofs.Wire.Strictness
import RemoteStaking.Proofs.Purse.Gathering
import RemoteStaking.Proofs.Bech32.Checksum
import RemoteStaking.Proofs.Bech32.RoundTrip
import RemoteStaking.Proofs.Transfer.Grammar
import RemoteStaking.Proofs.Transfer.Rules
import RemoteStaking.Proofs.Transfer.Vouchers
import RemoteStaking.Proofs.Gateway.Forms
import RemoteStaking.Proofs.Gateway.Senders
import RemoteStaking.Proofs.Gateway.Setup
import RemoteStaking.Proofs.Gateway.Redeeming
import RemoteStaking.Proofs.Gateway.Memos
import RemoteStaking.Proofs.Address.Spellings
