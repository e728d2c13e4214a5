import SignedSetup.Config.ConfigRecord
import SignedSetup.Log.Call
import SignedSetup.Main
import SignedSetup.Proofs.Account.Lifecycle
import SignedSetup.Proofs.Account.SignatureSpelling
import SignedSetup.Proofs.CommandLine.Signing
import SignedSetup.Proofs.Log.Lines
import SignedSetup.Proofs.Settings.Loading
import SignedSetup.Proofs.Setup.Agreement
import SignedSetup.Proofs.Setup.Coverage
import SignedSetup.Proofs.Setup.History
import SignedSetup.Proofs.Setup.Outcome
import SignedSetup.Proofs.Setup.WireForm
import SignedSetup.Setup.History
import SignedSetup.Setup.Session
