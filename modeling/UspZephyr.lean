import UspZephyr.StorageFailureProofs
import UspZephyr.StoreAndForwardProofs
import UspZephyr.FuotaStorageProofs
import UspZephyr.StoreGeometryProofs
import UspZephyr.HwModemLoopProofs
import UspZephyr.HwModemExchangeProofs
import UspZephyr.ModemHalReplayProofs
import UspZephyr.EventPinProofs
import UspZephyr.Lr20xxBoardProofs
import UspZephyr.Sx126xBoardProofs
import UspZephyr.BusyWaitProofs
import UspZephyr.RxConsumptionProofs
import UspZephyr.LogTimestampProofs
import UspZephyr.CrashLogProofs
import UspZephyr.AbortProofs
import UspZephyr.WaitOnSemsProofs
import UspZephyr.WaitOnEventProofs
import UspZephyr.RacRequestProofs
import UspZephyr.UspThreadProofs
import UspZephyr.UspThreadMutexProofs
import UspZephyr.UspThreadRunProofs
import UspZephyr.UspThreadTurnsProofs
import UspZephyr.GeolocationProofs
import UspZephyr.PeriodicalUplinkProofs
import UspZephyr.DebounceProofs
import UspZephyr.FlrpMenuProofs
import UspZephyr.ModemEventProofs
import UspZephyr.HexStringProofs
