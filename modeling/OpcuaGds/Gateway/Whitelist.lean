/-! # The points that the gateway mirrors -/

namespace OpcuaGds.Gateway

/-- `GwDataType`. -/
inductive GwDataType where
  | bool
  | double
  | int32
  deriving DecidableEq, Repr

structure GatewayPoint where
  label : String
  numericId : UInt32
  type : GwDataType
  deriving DecidableEq, Repr

/-- `GATEWAY_POINTS`. -/
def gatewayPoints : List GatewayPoint := [
  -- MES HEALTH
  ⟨"MES.Health.Heartbeat", 1601, .int32⟩,
  ⟨"MES.Health.Watchdog", 1602, .int32⟩,
  ⟨"MES.Health.LastUpdateEpoch", 1604, .int32⟩,
  ⟨"MES.Health.DataStale", 1605, .bool⟩,
  -- FACTORY - RAW / PROCESS
  ⟨"Factory.EtatUsine", 1112, .bool⟩,
  ⟨"Factory.EtatInstallation", 1113, .bool⟩,
  ⟨"Factory.Cuve1.NiveauBas", 1126, .bool⟩,
  ⟨"Factory.Cuve1.NiveauHaut", 1127, .bool⟩,
  ⟨"Factory.Cuve2.NiveauBas", 1128, .bool⟩,
  ⟨"Factory.Cuve2.NiveauHaut", 1129, .bool⟩,
  ⟨"Factory.Cuve3.NiveauBas", 1131, .bool⟩,
  ⟨"Factory.Cuve3.NiveauHaut", 1132, .bool⟩,
  ⟨"Factory.Cuve4.NiveauBas", 1133, .bool⟩,
  ⟨"Factory.Cuve4.NiveauHaut", 1134, .bool⟩,
  ⟨"Factory.Cuve5.NiveauBas", 1135, .bool⟩,
  ⟨"Factory.Cuve5.NiveauHaut", 1136, .bool⟩,
  ⟨"Factory.CycleActif", 1155, .bool⟩,
  ⟨"Factory.RecyclageActif", 1156, .bool⟩,
  ⟨"Factory.CycleTermine", 1157, .bool⟩,
  -- FACTORY MES - BOOLEAN SHADOWS
  ⟨"Factory.MES.CycleActive", 1611, .bool⟩,
  ⟨"Factory.MES.CycleDone", 1612, .bool⟩,
  ⟨"Factory.MES.FactoryRunning", 1613, .bool⟩,
  ⟨"Factory.MES.RecycleActive", 1614, .bool⟩,
  ⟨"Factory.MES.Tank4HighShadow", 1615, .bool⟩,
  ⟨"Factory.MES.Tank4LowShadow", 1616, .bool⟩,
  ⟨"Factory.MES.Tank5HighShadow", 1617, .bool⟩,
  ⟨"Factory.MES.Tank5LowShadow", 1618, .bool⟩,
  -- FACTORY MES - NUMERIC COUNTERS
  ⟨"Factory.MES.Heartbeat", 1650, .int32⟩,
  ⟨"Factory.MES.ProgramVersion", 1651, .int32⟩,
  ⟨"Factory.MES.DefautCode", 1652, .int32⟩,
  ⟨"Factory.MES.StateWord", 1653, .int32⟩,
  ⟨"Factory.MES.CycleCount", 1654, .int32⟩,
  ⟨"Factory.MES.RunTimeSeconds", 1655, .int32⟩,
  ⟨"Factory.MES.GoodCount", 1656, .int32⟩,
  -- POWERGRID PLC1 - FIELD MIRROR
  ⟨"PowerGrid.PLC1.PE.Etat", 1422, .bool⟩,
  ⟨"PowerGrid.PLC1.FS.Etat", 1424, .bool⟩,
  ⟨"PowerGrid.PLC1.GS.Etat", 1426, .bool⟩,
  ⟨"PowerGrid.PLC1.Factory.Etat", 1428, .bool⟩,
  ⟨"PowerGrid.PLC1.Homes.Etat", 1430, .bool⟩,
  ⟨"PowerGrid.PLC1.Railway.Etat", 1432, .bool⟩,
  -- POWERGRID PLC2 - SOURCES / DISTRIBUTION
  ⟨"PowerGrid.PLC2.PE.Etat", 1463, .bool⟩,
  ⟨"PowerGrid.PLC2.FS.Etat", 1467, .bool⟩,
  ⟨"PowerGrid.PLC2.GS.Etat", 1471, .bool⟩,
  ⟨"PowerGrid.PLC2.Factory.Etat", 1475, .bool⟩,
  ⟨"PowerGrid.PLC2.Homes.Etat", 1478, .bool⟩,
  ⟨"PowerGrid.PLC2.Railway.Etat", 1481, .bool⟩,
  ⟨"PowerGrid.PLC2.PE.Production", 1464, .bool⟩,
  ⟨"PowerGrid.PLC2.FS.Production", 1468, .bool⟩,
  ⟨"PowerGrid.PLC2.GS.Production", 1472, .bool⟩,
  ⟨"PowerGrid.PLC2.Factory.Distribue", 1476, .bool⟩,
  ⟨"PowerGrid.PLC2.Homes.Distribue", 1479, .bool⟩,
  ⟨"PowerGrid.PLC2.Railway.Distribue", 1482, .bool⟩,
  ⟨"PowerGrid.PLC2.PE.Power", 1465, .double⟩,
  ⟨"PowerGrid.PLC2.FS.Power", 1469, .double⟩,
  ⟨"PowerGrid.PLC2.GS.Power", 1473, .double⟩,
  ⟨"PowerGrid.PLC2.TAP", 1494, .double⟩,
  ⟨"PowerGrid.PLC2.TCP", 1495, .double⟩,
  -- POWERGRID PLC2 MES - EXISTING
  ⟨"PowerGrid.PLC2.MES.FactoryServed", 1641, .bool⟩,
  ⟨"PowerGrid.PLC2.MES.HomesServed", 1642, .bool⟩,
  ⟨"PowerGrid.PLC2.MES.RailwayServed", 1643, .bool⟩,
  ⟨"PowerGrid.PLC2.MES.DeficitActive", 1644, .bool⟩,
  ⟨"PowerGrid.PLC2.MES.Losses", 1645, .double⟩,
  ⟨"PowerGrid.PLC2.MES.ReserveMargin", 1646, .double⟩,
  ⟨"PowerGrid.PLC2.MES.FactoryDemand", 1647, .double⟩,
  ⟨"PowerGrid.PLC2.MES.HomesDemand", 1648, .double⟩,
  ⟨"PowerGrid.PLC2.MES.RailwayDemand", 1649, .double⟩,
  -- POWERGRID PLC2 MES - EXTRA VALUES
  ⟨"PowerGrid.PLC2.MES.PEPowerValue", 1670, .double⟩,
  ⟨"PowerGrid.PLC2.MES.FSPowerValue", 1671, .double⟩,
  ⟨"PowerGrid.PLC2.MES.GSPowerValue", 1672, .double⟩,
  ⟨"PowerGrid.PLC2.MES.TotalProduction", 1673, .double⟩,
  ⟨"PowerGrid.PLC2.MES.TotalConsumption", 1674, .double⟩,
  ⟨"PowerGrid.PLC2.MES.ReserveValue", 1675, .double⟩,
  -- RAIL AUTO
  ⟨"RailAuto.Etape1.Activation", 1321, .bool⟩,
  ⟨"RailAuto.Etape1.DelaiOuverture", 1322, .bool⟩,
  ⟨"RailAuto.Etape1.DelaiFermeture", 1323, .bool⟩,
  ⟨"RailAuto.Etape1.Terminee", 1324, .bool⟩,
  ⟨"RailAuto.Etape2.Activation", 1331, .bool⟩,
  ⟨"RailAuto.Etape2.DelaiOuverture", 1332, .bool⟩,
  ⟨"RailAuto.Etape2.DelaiFermeture", 1333, .bool⟩,
  ⟨"RailAuto.Etape2.Terminee", 1334, .bool⟩,
  ⟨"RailAuto.Etape3.Activation", 1341, .bool⟩,
  ⟨"RailAuto.Etape3.DelaiOuverture", 1342, .bool⟩,
  ⟨"RailAuto.Etape3.DelaiFermeture", 1343, .bool⟩,
  ⟨"RailAuto.Etape3.Terminee", 1344, .bool⟩,
  ⟨"RailAuto.Etape4.Activation", 1351, .bool⟩,
  ⟨"RailAuto.Etape4.DelaiOuverture", 1352, .bool⟩,
  ⟨"RailAuto.Etape4.DelaiFermeture", 1353, .bool⟩,
  ⟨"RailAuto.Etape4.Terminee", 1354, .bool⟩,
  -- RAIL MANUAL MES - BOOLEAN SHADOWS + EXISTING COUNTERS
  ⟨"RailManual.MES.FESRouteValid", 1621, .bool⟩,
  ⟨"RailManual.MES.MarrakechRouteValid", 1622, .bool⟩,
  ⟨"RailManual.MES.FESCycleActive", 1623, .bool⟩,
  ⟨"RailManual.MES.MarrakechCycleActive", 1624, .bool⟩,
  ⟨"RailManual.MES.DirectionConflict", 1625, .bool⟩,
  ⟨"RailManual.MES.GlobalFault", 1626, .bool⟩,
  ⟨"RailManual.MES.AnimationAlive", 1627, .bool⟩,
  ⟨"RailManual.MES.FESDone", 1628, .bool⟩,
  ⟨"RailManual.MES.MarrakechDone", 1629, .bool⟩,
  ⟨"RailManual.MES.FESCycleCount", 1630, .int32⟩,
  ⟨"RailManual.MES.MarrakechCycleCount", 1631, .int32⟩,
  ⟨"RailManual.MES.TotalCycleCount", 1632, .int32⟩,
  -- RAIL MANUAL MES - NUMERIC HEALTH / DIAGNOSTICS
  ⟨"RailManual.MES.Heartbeat", 1660, .int32⟩,
  ⟨"RailManual.MES.ProgramVersion", 1661, .int32⟩,
  ⟨"RailManual.MES.GlobalFaultCode", 1662, .int32⟩,
  ⟨"RailManual.MES.StateWord", 1663, .int32⟩,
  ⟨"RailManual.MES.LastResetReason", 1664, .int32⟩,
  ⟨"RailManual.MES.LastScanMs", 1665, .int32⟩,
  ⟨"RailManual.MES.MaxScanMs", 1666, .int32⟩,
  ⟨"RailManual.MES.WatchdogLo", 1667, .int32⟩,
  ⟨"RailManual.MES.FESActiveMs", 1668, .int32⟩,
  ⟨"RailManual.MES.MarrakechActiveMs", 1669, .int32⟩,
  -- POWERGRID PLC1 MES - ADVANCED WORDS
  ⟨"PowerGrid.PLC1.MES.SourceCount", 1680, .int32⟩,
  ⟨"PowerGrid.PLC1.MES.LoadCount", 1681, .int32⟩,
  ⟨"PowerGrid.PLC1.MES.GridOn", 1682, .int32⟩,
  ⟨"PowerGrid.PLC1.MES.LoadPercent", 1683, .int32⟩,
  ⟨"PowerGrid.PLC1.MES.SourcePercent", 1684, .int32⟩,
  ⟨"PowerGrid.PLC1.MES.GridState", 1685, .int32⟩,
  ⟨"PowerGrid.PLC1.MES.SourceMask", 1686, .int32⟩,
  ⟨"PowerGrid.PLC1.MES.LoadMask", 1687, .int32⟩,
  ⟨"PowerGrid.PLC1.MES.GridReady", 1688, .int32⟩,
  ⟨"PowerGrid.PLC1.MES.Overload", 1689, .int32⟩,
  ⟨"PowerGrid.PLC1.MES.FaultType", 1690, .int32⟩,
  ⟨"PowerGrid.PLC1.MES.Watchdog", 1691, .int32⟩,
  ⟨"PowerGrid.PLC1.MES.Integrity", 1692, .int32⟩,
  -- POWERGRID PLC2 MES - ADVANCED WORDS
  ⟨"PowerGrid.PLC2.MES.ProductionOn", 1700, .int32⟩,
  ⟨"PowerGrid.PLC2.MES.SourceCount", 1701, .int32⟩,
  ⟨"PowerGrid.PLC2.MES.DistributionCount", 1702, .int32⟩,
  ⟨"PowerGrid.PLC2.MES.DistributionPercent", 1703, .int32⟩,
  ⟨"PowerGrid.PLC2.MES.SourceMask", 1704, .int32⟩,
  ⟨"PowerGrid.PLC2.MES.DistributionMask", 1705, .int32⟩,
  ⟨"PowerGrid.PLC2.MES.TAPx10", 1706, .int32⟩,
  ⟨"PowerGrid.PLC2.MES.TCPx10", 1707, .int32⟩,
  ⟨"PowerGrid.PLC2.MES.Demandx10", 1708, .int32⟩,
  ⟨"PowerGrid.PLC2.MES.BalanceStatus", 1709, .int32⟩,
  ⟨"PowerGrid.PLC2.MES.BalanceAbs", 1710, .int32⟩,
  ⟨"PowerGrid.PLC2.MES.UtilizationPercent", 1711, .int32⟩,
  ⟨"PowerGrid.PLC2.MES.EnergyState", 1712, .int32⟩,
  ⟨"PowerGrid.PLC2.MES.Fault", 1713, .int32⟩,
  ⟨"PowerGrid.PLC2.MES.Watchdog", 1714, .int32⟩,
  ⟨"PowerGrid.PLC2.MES.Integrity", 1715, .int32⟩,
  ⟨"PowerGrid.PLC2.MES.RequestCount", 1716, .int32⟩,
  ⟨"PowerGrid.PLC2.MES.RequestMask", 1717, .int32⟩,
  ⟨"PowerGrid.PLC2.MES.Servedx10", 1718, .int32⟩,
  ⟨"PowerGrid.PLC2.MES.Unservedx10", 1719, .int32⟩,
  ⟨"PowerGrid.PLC2.MES.ServedPercent", 1720, .int32⟩,
  ⟨"PowerGrid.PLC2.MES.FactoryDemandx10", 1721, .int32⟩,
  ⟨"PowerGrid.PLC2.MES.HomesDemandx10", 1722, .int32⟩,
  ⟨"PowerGrid.PLC2.MES.RailwayDemandx10", 1723, .int32⟩,
  ⟨"PowerGrid.PLC2.MES.FactoryShare", 1724, .int32⟩,
  ⟨"PowerGrid.PLC2.MES.HomesShare", 1725, .int32⟩,
  ⟨"PowerGrid.PLC2.MES.RailwayShare", 1726, .int32⟩,
  ⟨"PowerGrid.PLC2.MES.FactoryServedFlag", 1727, .int32⟩,
  ⟨"PowerGrid.PLC2.MES.HomesServedFlag", 1728, .int32⟩,
  ⟨"PowerGrid.PLC2.MES.RailwayServedFlag", 1729, .int32⟩,
  -- FACTORY PLC3 MES - ADVANCED WORDS
  ⟨"Factory.MES.TotalCycles", 1730, .int32⟩,
  ⟨"Factory.MES.TotalGood", 1731, .int32⟩,
  ⟨"Factory.MES.TotalReject", 1732, .int32⟩,
  ⟨"Factory.MES.ThroughputPerMin", 1733, .int32⟩,
  ⟨"Factory.MES.ThroughputPerHour", 1734, .int32⟩,
  ⟨"Factory.MES.QualityPercent", 1735, .int32⟩,
  ⟨"Factory.MES.DowntimeSeconds", 1736, .int32⟩,
  ⟨"Factory.MES.UptimeSeconds", 1737, .int32⟩,
  ⟨"Factory.MES.AvailabilityPercent", 1738, .int32⟩,
  ⟨"Factory.MES.TargetCycleTime", 1739, .int32⟩,
  ⟨"Factory.MES.ActualCycleTime", 1740, .int32⟩,
  ⟨"Factory.MES.PerformancePercent", 1741, .int32⟩,
  ⟨"Factory.MES.OEE", 1742, .int32⟩,
  ⟨"Factory.MES.EnergyPerCycle", 1743, .int32⟩,
  ⟨"Factory.MES.EnergyPerHour", 1744, .int32⟩,
  ⟨"Factory.MES.FaultTypeAdv", 1745, .int32⟩,
  ⟨"Factory.MES.WatchdogAdv", 1746, .int32⟩,
  ⟨"Factory.MES.ProcessState", 1747, .int32⟩,
  ⟨"Factory.MES.PumpRuntimeHours", 1748, .int32⟩,
  ⟨"Factory.MES.MaintenanceDue", 1749, .int32⟩,
  ⟨"Factory.MES.LoadPercent", 1750, .int32⟩,
  ⟨"Factory.MES.IntegrityAdv", 1751, .int32⟩,
  -- RAIL AUTO PLC4 MES
  ⟨"RailAuto.MES.Step", 1760, .int32⟩,
  ⟨"RailAuto.MES.ProgressPercent", 1761, .int32⟩,
  ⟨"RailAuto.MES.CycleActive", 1762, .int32⟩,
  ⟨"RailAuto.MES.CycleDone", 1763, .int32⟩,
  ⟨"RailAuto.MES.ErrorCode", 1764, .int32⟩,
  ⟨"RailAuto.MES.StepTime", 1765, .int32⟩,
  ⟨"RailAuto.MES.TotalTime", 1766, .int32⟩,
  ⟨"RailAuto.MES.Throughput", 1767, .int32⟩,
  ⟨"RailAuto.MES.Availability", 1768, .int32⟩,
  ⟨"RailAuto.MES.Performance", 1769, .int32⟩,
  ⟨"RailAuto.MES.Quality", 1770, .int32⟩,
  ⟨"RailAuto.MES.OEE", 1771, .int32⟩,
  ⟨"RailAuto.MES.Watchdog", 1772, .int32⟩,
  ⟨"RailAuto.MES.State", 1773, .int32⟩,
  ⟨"RailAuto.MES.FaultType", 1774, .int32⟩,
  ⟨"RailAuto.MES.Integrity", 1775, .int32⟩,
  -- RAIL MANUAL PLC5 MES - ADVANCED WORDS
  ⟨"RailManual.MES.ActiveLines", 1790, .int32⟩,
  ⟨"RailManual.MES.RouteMask", 1791, .int32⟩,
  ⟨"RailManual.MES.FlowCount", 1792, .int32⟩,
  ⟨"RailManual.MES.FlowRate", 1793, .int32⟩,
  ⟨"RailManual.MES.UtilizationPercent", 1794, .int32⟩,
  ⟨"RailManual.MES.ConflictCount", 1795, .int32⟩,
  ⟨"RailManual.MES.SafetyFlag", 1796, .int32⟩,
  ⟨"RailManual.MES.QueueLength", 1797, .int32⟩,
  ⟨"RailManual.MES.WaitTime", 1798, .int32⟩,
  ⟨"RailManual.MES.Throughput", 1799, .int32⟩,
  ⟨"RailManual.MES.Efficiency", 1800, .int32⟩,
  ⟨"RailManual.MES.OEE", 1801, .int32⟩,
  ⟨"RailManual.MES.State", 1802, .int32⟩,
  ⟨"RailManual.MES.FaultTypeAdv", 1803, .int32⟩,
  ⟨"RailManual.MES.WatchdogAdv", 1804, .int32⟩,
  ⟨"RailManual.MES.IntegrityAdv", 1805, .int32⟩,
  ⟨"RailManual.MES.LoadPercent", 1806, .int32⟩]

end OpcuaGds.Gateway
